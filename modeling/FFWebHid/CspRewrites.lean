import Mathlib.Data.List.InsertIdx
import FFWebHid.InlineScripts

/-!
The rewriting of a policy for blob workers and for the connections to the daemon:
`rewriteCspValue`, and what the browser allows before and after it.
-/
namespace FFWebHid.CspRewrites
open FFWebHid.CspText FFWebHid.Separators
open FFWebHid.Policies (isSpace trim)
open FFWebHid.InlineScripts (listCovers isStrictDynamic)

def workerSrc : Text := "worker-src".toList
def connectSrc : Text := "connect-src".toList
def trustedTypes : Text := "trusted-types".toList
def scriptSrc : Text := "script-src".toList
def defaultSrc : Text := "default-src".toList

def blob : Text := "blob:".toList
def daemonWs : Text := "ws://127.0.0.1:*".toList
def daemonHttps : Text := "https://127.0.0.1:*".toList
def webhidWorker : Text := "webhid-worker".toList

/-- What every object has under a name in lower case. -/
def inherited : List Text := ["constructor","__proto__"].map String.toList

/-- The tokens of a directive, joined by single spaces, unless there is one of the name. -/
def addDirective (directives : List (Text × Text)) (raw : Text) : List (Text × Text) :=
  let trimmed := trim raw
  if trimmed = [] then directives
  else
    let parts := splitSpaces trimmed
    let name := lower (parts.headD [])
    if inherited.contains name || (directives.lookup name).isSome then directives
    else directives ++ [(name,[' '].intercalate (parts.drop 1))]

def parseDirectives (csp : Text) : List (Text × Text) := (csp.splitOn ';').foldl addDirective []

def sourceListAllowsDaemonConnects (list : Text) : Bool :=
  let tokens := splitSpaces list
  tokens.contains ['*'] || tokens.contains "ws:".toList || tokens.contains daemonWs || tokens.contains "https:".toList ||
    tokens.contains daemonHttps

/-- The segments, and whether one of them was changed. -/
def appendToDirective (segments : List Text) (name token : Text) : List Text × Bool :=
  match segments.findIdx? fun segment => firstWord segment = some name with
  | none => (segments,false)
  | some index =>
    let parts := CspText.parts (segments.getD index [])
    if (parts.drop 1).contains token then (segments,false)
    else (segments.set index (trim (segments.getD index []) ++ ' ' :: token),true)

/-- A new directive goes to the end, or before an empty segment there. -/
def appendDirective (segments : List Text) (name value : Text) : List Text :=
  let segment := name ++ if value = [] then [] else ' ' :: value
  let trailingEmpty := segments.getLast?.any fun last => trim last = []
  segments.insertIdx (if trailingEmpty then segments.length - 1 else segments.length) segment

/-- `worker-src` gets `blob:`, or is added with the list of `script-src` or `default-src`. -/
def rewriteWorkers (directives : List (Text × Text)) (segments : List Text) : List Text × Bool :=
  match directives.lookup workerSrc with
  | some list => if (splitSpaces list).contains blob then (segments,false) else appendToDirective segments workerSrc blob
  | none =>
    match (directives.lookup scriptSrc).or (directives.lookup defaultSrc) with
    | some fallback => (appendDirective segments workerSrc (fallback ++ ' ' :: blob),true)
    | none => (segments,false)

/-- `connect-src` gets both addresses of the daemon, or is added with the list of `default-src`. -/
def rewriteConnects (directives : List (Text × Text)) (segments : List Text) : List Text × Bool :=
  match directives.lookup connectSrc with
  | some list =>
    if sourceListAllowsDaemonConnects list then (segments,false)
    else
      let (segments,ws) := appendToDirective segments connectSrc daemonWs
      let (segments,https) := appendToDirective segments connectSrc daemonHttps
      (segments,https || ws)
  | none =>
    match directives.lookup defaultSrc with
    | some list => (appendDirective segments connectSrc (list ++ ' ' :: (daemonWs ++ ' ' :: daemonHttps)),true)
    | none => (segments,false)

/-- `trusted-types` gets the name of the worker's policy, or is added with it alone. -/
def rewriteTrustedTypes (directives : List (Text × Text)) (segments : List Text) : List Text × Bool :=
  match directives.lookup trustedTypes with
  | none => (appendDirective segments trustedTypes webhidWorker,true)
  | some list =>
    if (splitSpaces list).contains webhidWorker then (segments,false)
    else appendToDirective segments trustedTypes webhidWorker

/-- The value, and whether it was modified. -/
def rewriteCspValue (csp : Text) (hasTrustedTypesRequire : Bool) : Text × Bool :=
  if hasUnseparatedDirective csp then (csp,false)
  else
    let directives := parseDirectives csp
    let segments := csp.splitOn ';'
    let (segments,workers) := rewriteWorkers directives segments
    let (segments,connects) := rewriteConnects directives segments
    let (segments,names) := if hasTrustedTypesRequire then rewriteTrustedTypes directives segments else (segments,false)
    ([';'].intercalate segments,workers || connects || names)

/-- How source expressions cover URLs; the keyword `'none'` covers none. -/
structure Sources (υ : Type) where
  covers : Text → υ → Bool
  none : ∀ source url, lower source = "'none'".toList → covers source url = false

/-- Workers have no nonce and are not inserted by the parser: a list of `script-src` with
    `'strict-dynamic'` lets them all through. -/
def allowsWorker {υ : Type} (sources : Sources υ) (policy : List (List Text)) (url : υ) : Bool :=
  match governing policy [workerSrc,"child-src".toList] with
  | some list => listCovers sources.covers list url
  | none =>
    match directive? policy scriptSrc with
    | some list => list.any isStrictDynamic || listCovers sources.covers list url
    | none => (directive? policy defaultSrc).all fun list => listCovers sources.covers list url

def allowsConnect {υ : Type} (sources : Sources υ) (policy : List (List Text)) (url : υ) : Bool :=
  (governing policy [connectSrc,defaultSrc]).all fun list => listCovers sources.covers list url

/-- `tt-policy-name` of the grammar. -/
def isPolicyName (name : Text) : Bool :=
  !name.isEmpty && name.all fun c => c.isAlphanum || "-#=_/@.%".toList.contains c

/-- A policy of a name may be created, also when there is one of the name already. -/
def allowsName (policy : List (List Text)) (name : Text) (duplicate : Bool) : Bool :=
  (directive? policy trustedTypes).all fun list =>
    (list.contains ['*'] || (isPolicyName name && list.contains name)) &&
      (!duplicate || list.any fun e => lower e == "'allow-duplicates'".toList)

/-- The fallback chains of everything but workers, connections and names of Trusted Types policies;
    the evaluation of strings and of WebAssembly asks `script-src` itself. -/
def loadChains : List (List Text) :=
  [["script-src-elem","script-src","default-src"],["script-src-attr","script-src","default-src"],
    ["script-src","default-src"],["style-src-elem","style-src","default-src"],
    ["style-src-attr","style-src","default-src"],["style-src","default-src"],
    ["img-src","default-src"],["font-src","default-src"],["media-src","default-src"],["object-src","default-src"],
    ["manifest-src","default-src"],["prefetch-src","default-src"],["frame-src","child-src","default-src"],
    ["navigate-to"],["form-action"],["base-uri"],["sandbox"],["frame-ancestors"],["plugin-types"],["report-uri"],
    ["report-to"],["upgrade-insecure-requests"],["block-all-mixed-content"],["require-sri-for"],
    ["require-trusted-types-for"]].map fun chain => chain.map String.toList

/-- All policies of a value allow it. -/
def All (csp : Text) (allows : List (List Text) → Bool) : Prop := ∀ policy ∈ readPolicies csp, allows policy = true

instance (csp : Text) (allows : List (List Text) → Bool) : Decidable (All csp allows) :=
  inferInstanceAs (Decidable (∀ policy ∈ readPolicies csp, allows policy = true))

/-- What is allowed after is what was allowed, with workers from blob URLs and connections to the
    daemon, and a second rewriting changes nothing. -/
structure OnlyAdds {υ : Type} (sources : Sources υ) (required : Bool) (before after : Text) : Prop where
  loads : ∀ chain ∈ loadChains, ∀ allows : List Text → Bool,
    All after (fun policy => (governing policy chain).all allows) ↔ All before fun policy => (governing policy chain).all allows
  workers (url : υ) : All after (fun policy => allowsWorker sources policy url) ↔
    All before (fun policy => allowsWorker sources policy url) ∨ sources.covers blob url = true
  connects (url : υ) : All after (fun policy => allowsConnect sources policy url) ↔
    All before (fun policy => allowsConnect sources policy url) ∨
      sources.covers daemonWs url = true ∨ sources.covers daemonHttps url = true
  names (name : Text) (duplicate : Bool) : All before (fun policy => allowsName policy name duplicate) →
    All after fun policy => allowsName policy name duplicate
  noOthers (name : Text) (duplicate : Bool) : All after (fun policy => allowsName policy name duplicate) →
    All before (fun policy => allowsName policy name duplicate) ∨ (required = true ∧ name = webhidWorker)
  again : rewriteCspValue after required = (after,false)

/-! ### Segments -/

/-- The policy of some segments. -/
def policyOf (segments : List Text) : List (List Text) := segments.map directiveWords

/-- Segments of one policy, with no name of a directive among the tokens of another. -/
structure Clean (segments : List Text) : Prop where
  filled : segments ≠ []
  text : ∀ s ∈ segments, Plain s ∧ ',' ∉ s ∧ ';' ∉ s
  separated : ∀ s ∈ segments, ∀ w ∈ (directiveWords s).tail, lower w ∉ directiveNames

/-- One list is as given, and the others as before. -/
structure Changed (segments after : List Text) (name : Text) (list : Option (List Text)) : Prop where
  clean : Clean after
  lists : ∀ other ∈ directiveNames, directive? (policyOf after) other
    = if other = name then list else directive? (policyOf segments) other

theorem Changed.refl {segments : List Text} (clean : Clean segments) (name : Text) :
    Changed segments segments name (directive? (policyOf segments) name) where
  clean := clean
  lists other _ := by
    split
    · rename_i same
      rw [same]
    · rfl

theorem directiveNames_lower : ∀ name ∈ directiveNames, lower name = name ∧ name ≠ [] ∧ name ∉ inherited := by decide +kernel

theorem mem_intercalate {c d : Char} {segments : List Text} (inside : c ∈ [d].intercalate segments) :
    c = d ∨ ∃ s ∈ segments, c ∈ s := by
  induction segments with
  | nil => cases inside
  | cons s segments ih =>
    cases segments with
    | nil =>
      rw [List.intercalate_singleton] at inside
      exact .inr ⟨s,List.mem_cons_self,inside⟩
    | cons s' segments =>
      rw [List.intercalate_cons_cons,List.mem_append,List.mem_append,List.mem_singleton] at inside
      rcases inside with (own | rfl) | later
      · exact .inr ⟨s,List.mem_cons_self,own⟩
      · exact .inl rfl
      · exact (ih later).imp_right fun ⟨t,among,own⟩ => ⟨t,List.mem_cons_of_mem s among,own⟩

/-- Clean segments are read back from the value that they make, as one policy. -/
theorem Clean.split {segments : List Text} (clean : Clean segments) :
    ([';'].intercalate segments).splitOn ';' = segments :=
  List.splitOn_intercalate ';' (fun s among => (clean.text s among).2.2) clean.filled

theorem Clean.single {segments : List Text} (clean : Clean segments) : ',' ∉ [';'].intercalate segments := by
  intro inside
  rcases mem_intercalate inside with colon | ⟨s,among,own⟩
  · cases colon
  · exact (clean.text s among).2.1 own

theorem readPolicies_single {csp : Text} (single : ',' ∉ csp) : readPolicies csp = [policyOf (csp.splitOn ';')] := by
  rw [readPolicies,List.splitOn_eq_singleton single]
  rfl

theorem hasUnseparated_iff {csp : Text} (plain : Plain csp) :
    hasUnseparatedDirective csp = false ↔
      ∀ s ∈ csp.splitOn ';', ∀ w ∈ (directiveWords s).tail, lower w ∉ directiveNames := by
  rw [hasUnseparatedDirective,List.any_eq_false]
  refine forall₂_congr fun s among => ?_
  rw [parts_tokens (plain_of_piece plain among),List.any_eq_true,not_exists]
  simp only [not_and,List.contains_iff_mem]

theorem clean_splitOn {csp : Text} (plain : Plain csp) (single : ',' ∉ csp) (separated : hasUnseparatedDirective csp = false) :
    Clean (csp.splitOn ';') where
  filled := List.splitOn_ne_nil ';' csp
  text s among := by
    refine ⟨plain_of_piece plain among,fun inside => single ?_,not_mem_of_piece among⟩
    rw [List.splitOn_eq_splitOnP] at among
    exact (mem_splitOnP among _ inside).2
  separated := (hasUnseparated_iff plain).mp separated

theorem Clean.separate {segments : List Text} (clean : Clean segments) :
    hasUnseparatedDirective ([';'].intercalate segments) = false := by
  refine (hasUnseparated_iff fun c inside => ?_).mpr (by rw [clean.split]; exact clean.separated)
  rcases mem_intercalate inside with rfl | ⟨s,among,own⟩
  · decide
  · exact (clean.text s among).1 c own

/-- What a directive adds: its tokens under its name, if the name is new. -/
theorem lookup_addDirective {raw : Text} (plain : Plain raw) {name : Text} (known : name ∈ directiveNames)
    (directives : List (Text × Text)) :
    (addDirective directives raw).lookup name = (directives.lookup name).or
      (if isNamed name (directiveWords raw) then some ([' '].intercalate (directiveWords raw).tail) else none) := by
  obtain ⟨-,named,own⟩ := directiveNames_lower name known
  rw [addDirective]
  dsimp only
  split
  · rename_i empty
    rw [directiveWords_eq plain,wordsBy_of_trim empty]
    simp [isNamed]
  · rename_i filled
    have words : splitSpaces (trim raw) = directiveWords raw := by
      have shape := parts_eq raw
      rwa [if_neg filled,← directiveWords_eq plain] at shape
    rw [words,List.drop_one]
    cases directiveWords raw with
    | nil =>
      split
      · simp [isNamed]
      · have other : (name == lower (List.headD ([] : List Text) [])) = false := by simp [lower,named]
        rw [List.lookup_append,List.lookup_cons,other]
        simp [isNamed]
    | cons w tokens =>
      rw [List.headD_cons,List.tail_cons]
      by_cases same : lower w = name
      · have is : isNamed name (w :: tokens) = true := by simp [isNamed,same]
        rw [if_pos is,same]
        cases found : directives.lookup name with
        | some list => simp [found]
        | none =>
          simp [found,own,List.lookup_append]
      · have is : isNamed name (w :: tokens) = false := by simp [isNamed,same]
        have other : (name == lower w) = false := by simp [Ne.symm same]
        simp only [is,Bool.false_eq_true,if_false,Option.or_none]
        split
        · rfl
        · rw [List.lookup_append,List.lookup_cons,other]
          simp

theorem directive?_cons (d : List Text) (policy : List (List Text)) (name : Text) :
    directive? (d :: policy) name = if isNamed name d then some d.tail else directive? policy name := by
  rw [directive?,List.find?_cons]
  cases isNamed name d <;> rfl

/-- The object of directives has the lists of the policy. -/
theorem lookup_parseDirectives {csp : Text} (plain : Plain csp) {name : Text} (known : name ∈ directiveNames) :
    (parseDirectives csp).lookup name = (directive? (policyOf (csp.splitOn ';')) name).map ([' '].intercalate ·) := by
  suffices fold : ∀ segments : List Text, (∀ s ∈ segments, Plain s) → ∀ directives : List (Text × Text),
      (segments.foldl addDirective directives).lookup name
        = (directives.lookup name).or ((directive? (policyOf segments) name).map ([' '].intercalate ·)) by
    have whole := fold (csp.splitOn ';') (fun s among => plain_of_piece plain among) []
    rwa [List.lookup_nil,Option.none_or] at whole
  intro segments
  induction segments with
  | nil =>
    intro _ directives
    exact Option.or_none.symm
  | cons s segments ih =>
    intro text directives
    rw [List.foldl_cons,ih (fun r among => text r (List.mem_cons_of_mem s among)),
      lookup_addDirective (text s List.mem_cons_self) known,Option.or_assoc]
    congr 1
    change _ = Option.map _ (directive? (directiveWords s :: policyOf segments) name)
    rw [directive?_cons]
    split <;> rfl

/-- The words of a list are read back from the text of it. -/
theorem words_of_directive {segments : List Text} (clean : Clean segments) {name : Text} {list : List Text}
    (own : directive? (policyOf segments) name = some list) :
    ∀ w ∈ list, (w ≠ [] ∧ ∀ c ∈ w, isSpace c = false) ∧ Plain w ∧ ',' ∉ w ∧ ';' ∉ w ∧ lower w ∉ directiveNames := by
  obtain ⟨d,found,rfl⟩ := Option.map_eq_some_iff.mp own
  obtain ⟨s,among,rfl⟩ := List.mem_map.mp (List.mem_of_find?_eq_some found)
  obtain ⟨plain,comma,colon⟩ := clean.text s among
  intro w inside
  have word := List.mem_of_mem_tail inside
  rw [directiveWords_eq plain] at word
  have known := mem_wordsBy word
  refine ⟨⟨known.1,fun c own => (known.2 c own).1⟩,fun c own => plain c (known.2 c own).2,
    fun own => comma (known.2 _ own).2,fun own => colon (known.2 _ own).2,clean.separated s among w inside⟩

theorem contains_tokens {segments : List Text} (clean : Clean segments) {name : Text} {list : List Text}
    (own : directive? (policyOf segments) name = some list) {token : Text} (some : token ≠ []) :
    (splitSpaces ([' '].intercalate list)).contains token = list.contains token := by
  rw [splitSpaces_intercalate fun w inside => (words_of_directive clean own w inside).1]
  split
  · rename_i empty
    rw [empty]
    simp [some]
  · rfl

theorem findIdx?_firstWord {segments : List Text} (plain : ∀ s ∈ segments, Plain s) {name : Text} (named : name ≠ []) :
    segments.findIdx? (fun segment => firstWord segment = some name) = (policyOf segments).findIdx? (isNamed name) := by
  induction segments with
  | nil => rfl
  | cons s segments ih =>
    have same : decide (firstWord s = some name) = isNamed name (directiveWords s) := by
      rw [Bool.eq_iff_iff,decide_eq_true_iff]
      exact firstWord_iff (plain s List.mem_cons_self) named
    change _ = (directiveWords s :: policyOf segments).findIdx? (isNamed name)
    rw [List.findIdx?_cons,List.findIdx?_cons,same,ih fun r among => plain r (List.mem_cons_of_mem s among)]

/-- The segment of a directive that the policy has. -/
theorem segment_of_directive {segments : List Text} {name : Text} {list : List Text}
    (own : directive? (policyOf segments) name = some list) :
    ∃ index s, (policyOf segments).findIdx? (isNamed name) = some index ∧ segments[index]? = some s ∧
      isNamed name (directiveWords s) = true ∧ (directiveWords s).tail = list := by
  obtain ⟨d,found,tail⟩ := Option.map_eq_some_iff.mp own
  have named := List.find?_some found
  rw [List.find?_eq_bind_findIdx?_getElem?,Option.bind_eq_some_iff] at found
  obtain ⟨index,place,there⟩ := found
  rw [policyOf,List.getElem?_map,Option.map_eq_some_iff] at there
  obtain ⟨s,at_,rfl⟩ := there
  exact ⟨index,s,place,at_,named,tail⟩

theorem isNamed_unique {one two : Text} {d : List Text} (first : isNamed one d = true) (second : isNamed two d = true) :
    one = two := by
  rw [isNamed,beq_iff_eq] at first second
  exact Option.some.inj (first.symm.trans second)

theorem appendToDirective_changed {segments : List Text} (clean : Clean segments) {name : Text}
    (known : name ∈ directiveNames) {list : List Text} (own : directive? (policyOf segments) name = some list)
    {token : Text} (word : Token token) (fresh : lower token ∉ directiveNames) (new : token ∉ list) :
    (appendToDirective segments name token).2 = true ∧
      Changed segments (appendToDirective segments name token).1 name (some (list ++ [token])) := by
  have plain : ∀ s ∈ segments, Plain s := fun s among => (clean.text s among).1
  obtain ⟨index,s,place,at_,named,tail⟩ := segment_of_directive own
  have there : segments.getD index [] = s := by rw [List.getD_eq_getElem?_getD,at_,Option.getD_some]
  have absent : (((parts s).drop 1).contains token) = false := by
    rw [parts_tokens (plain s (List.mem_of_getElem? at_)),tail]
    simpa using new
  have extended : appendToDirective segments name token
      = (segments.modify index fun segment => trim segment ++ ' ' :: token,true) := by
    rw [appendToDirective,findIdx?_firstWord plain (directiveNames_lower name known).2.1,place]
    dsimp only
    rw [there,absent,if_neg Bool.false_ne_true,List.modify_eq_set,at_]
    rfl
  have words : ∀ s ∈ segments, directiveWords (trim s ++ ' ' :: token) = directiveWords s ++ [token] := fun s among => by
    rw [directiveWords_token (plain_of_trim (plain s among)) word,directiveWords_trim (plain s among)]
  have policy : policyOf (segments.modify index fun segment => trim segment ++ ' ' :: token)
      = (policyOf segments).modify index (· ++ [token]) := map_modify_of words index
  rw [extended]
  refine ⟨rfl,⟨by simpa using clean.filled,?_,?_⟩,fun other among => ?_⟩
  · refine forall_modify clean.text (fun s among => ⟨plain_append (plain_of_trim (plain s among)) word.plain,?_,?_⟩) index
    · intro inside
      rcases List.mem_append.mp inside with old | added
      · exact (clean.text s among).2.1 (mem_of_mem_trim old)
      · rcases List.mem_cons.mp added with space | added
        · cases space
        · exact (word.free _ added).2.1 rfl
    · intro inside
      rcases List.mem_append.mp inside with old | added
      · exact (clean.text s among).2.2 (mem_of_mem_trim old)
      · rcases List.mem_cons.mp added with space | added
        · cases space
        · exact (word.free _ added).2.2 rfl
  · refine forall_modify clean.separated (fun s among => ?_) index
    rw [words s among]
    intro w inside
    cases shape : directiveWords s with
    | nil =>
      rw [shape] at inside
      cases inside
    | cons first tokens =>
      rw [shape] at inside
      rcases List.mem_append.mp (show w ∈ tokens ++ [token] from inside) with old | added
      · exact clean.separated s among w (by rw [shape]; exact old)
      · rwa [List.mem_singleton.mp added]
  · have unlike : lower token ≠ other := fun same => fresh (same ▸ among)
    rw [policy,directive?_modify unlike]
    by_cases same : other = name
    · rw [same,if_pos place,if_pos rfl,own,Option.map_some]
    · rw [if_neg same,if_neg]
      intro elsewhere
      obtain ⟨inside,named',-⟩ := List.findIdx?_eq_some_iff_getElem.mp elsewhere
      obtain ⟨inside',named'',-⟩ := List.findIdx?_eq_some_iff_getElem.mp place
      exact same (isNamed_unique named' named'')

theorem directive?_insertIdx {policy : List (List Text)} {i : Nat} (inside : i ≤ policy.length)
    (behind : ∀ d ∈ policy.drop i, d = []) (d : List Text) (other : Text) :
    directive? (policy.insertIdx i d) other
      = (directive? policy other).or (if isNamed other d then some d.tail else none) := by
  induction policy generalizing i with
  | nil =>
    obtain rfl : i = 0 := Nat.le_zero.mp inside
    exact directive?_cons d [] other
  | cons e policy ih =>
    cases i with
    | zero =>
      have nothing : directive? (e :: policy) other = none := by
        rw [directive?,Option.map_eq_none_iff,List.find?_eq_none]
        intro e' among
        rw [behind e' among]
        simp [isNamed]
      rw [nothing,Option.none_or]
      have first := directive?_cons d (e :: policy) other
      rwa [nothing] at first
    | succ i =>
      rw [List.insertIdx_succ_cons,directive?_cons,directive?_cons,ih (Nat.le_of_succ_le_succ inside) behind]
      split
      · exact Option.some_or.symm
      · rfl

/-- Where a new directive goes, only an empty segment is behind it. -/
theorem behind_new {segments : List Text} (clean : Clean segments) :
    let index := if segments.getLast?.any fun last => trim last = [] then segments.length - 1 else segments.length
    index ≤ segments.length ∧ ∀ d ∈ (policyOf segments).drop index, d = [] := by
  intro index
  refine ⟨by dsimp only [index]; split <;> omega,?_⟩
  dsimp only [index]
  split
  · rename_i empty
    obtain ⟨last,ends,blank⟩ := Option.any_eq_true _ _ |>.mp empty
    obtain ⟨front,rfl⟩ := List.getLast?_eq_some_iff.mp ends
    have plain := (clean.text last (by simp)).1
    rw [policyOf,List.map_append,List.length_append,List.map_singleton,List.length_singleton,Nat.add_sub_cancel,
      List.drop_left' (List.length_map _),directiveWords_eq plain,wordsBy_of_trim (by simpa using blank)]
    simp
  · rw [policyOf,List.drop_eq_nil_of_le (by simp)]
    simp

theorem appendDirective_changed {segments : List Text} (clean : Clean segments) {name : Text}
    (known : name ∈ directiveNames) (absent : directive? (policyOf segments) name = none) {value : Text}
    (text : Plain value ∧ ',' ∉ value ∧ ';' ∉ value) (filled : value ≠ [])
    (separated : ∀ w ∈ wordsBy isSpace value, lower w ∉ directiveNames) :
    Changed segments (appendDirective segments name value) name (some (wordsBy isSpace value)) := by
  have named : Token name := by
    have all : ∀ name ∈ directiveNames, Plain name ∧ name ≠ [] ∧ isFree name = true := by decide +kernel
    obtain ⟨plain,some,free⟩ := all name known
    exact ⟨plain,some,free_of_all free⟩
  have plain : Plain (name ++ ' ' :: value) := plain_append named.plain text.1
  have words : directiveWords (name ++ ' ' :: value) = name :: wordsBy isSpace value := by
    rw [directiveWords_eq plain,wordsBy_append_cons (by decide),wordsBy_of_free named.some fun c inside => by
      rw [isSpace_eq (named.plain c inside)]
      exact (named.free c inside).1]
    rfl
  obtain ⟨inside,behind⟩ := behind_new clean
  have policy : policyOf (appendDirective segments name value)
      = (policyOf segments).insertIdx (if segments.getLast?.any fun last => trim last = [] then segments.length - 1
          else segments.length) (name :: wordsBy isSpace value) := by
    rw [policyOf,appendDirective,if_neg filled,List.map_insertIdx,words]
    rfl
  have members : ∀ s ∈ appendDirective segments name value, s ∈ segments ∨ s = name ++ ' ' :: value := by
    intro s among
    rw [appendDirective,if_neg filled] at among
    exact (List.eq_or_mem_of_mem_insertIdx among).symm
  refine ⟨⟨?_,fun s among => ?_,fun s among w own => ?_⟩,fun other among => ?_⟩
  · intro empty
    have none := congrArg policyOf empty
    rw [policy] at none
    have length := congrArg List.length none
    rw [List.length_insertIdx_of_le_length (by rwa [policyOf,List.length_map])] at length
    cases length
  · rcases members s among with old | rfl
    · exact clean.text s old
    · have free {c : Char} (mark : c = ',' ∨ c = ';') (inside : c ∈ name ++ ' ' :: value) : False := by
        rcases List.mem_append.mp inside with own | own
        · have away := (named.free c own).2
          exact mark.elim away.1 away.2
        · rcases List.mem_cons.mp own with space | own
          · rcases mark with rfl | rfl <;> cases space
          · rcases mark with rfl | rfl
            · exact text.2.1 own
            · exact text.2.2 own
      exact ⟨plain,free (.inl rfl),free (.inr rfl)⟩
  · rcases members s among with old | rfl
    · exact clean.separated s old w own
    · rw [words] at own
      exact separated w own
  · rw [policy,directive?_insertIdx (by rwa [policyOf,List.length_map]) behind]
    have lower' := (directiveNames_lower name known).1
    by_cases same : other = name
    · rw [same,absent,if_pos rfl]
      simp [isNamed,lower']
    · have unlike : isNamed other (name :: wordsBy isSpace value) = false := by simp [isNamed,lower',Ne.symm same]
      rw [if_neg same,unlike]
      simp

/-- A token that the code adds. -/
theorem added_token : ∀ token ∈ [blob,daemonWs,daemonHttps,webhidWorker], Token token ∧ lower token ∉ directiveNames := by
  have all : ∀ token ∈ [blob,daemonWs,daemonHttps,webhidWorker], (Plain token ∧ token ≠ [] ∧ isFree token = true) ∧
      lower token ∉ directiveNames := by decide +kernel
  intro token among
  obtain ⟨⟨plain,some,free⟩,fresh⟩ := all token among
  exact ⟨⟨plain,some,free_of_all free⟩,fresh⟩

theorem token_words {token : Text} (word : Token token) : wordsBy isSpace token = [token] :=
  wordsBy_of_free word.some fun c inside => by
    rw [isSpace_eq (word.plain c inside)]
    exact (word.free c inside).1

/-- A value made of the tokens of a list and of something behind them. -/
theorem joined_value {segments : List Text} (clean : Clean segments) {name : Text} {list : List Text}
    (own : directive? (policyOf segments) name = some list) {rest : Text} (text : Plain rest ∧ ',' ∉ rest ∧ ';' ∉ rest) :
    (Plain ([' '].intercalate list ++ ' ' :: rest) ∧ ',' ∉ [' '].intercalate list ++ ' ' :: rest ∧
        ';' ∉ [' '].intercalate list ++ ' ' :: rest) ∧
      wordsBy isSpace ([' '].intercalate list ++ ' ' :: rest) = list ++ wordsBy isSpace rest := by
  have words := words_of_directive clean own
  have plain : Plain ([' '].intercalate list) := by
    intro c inside
    rcases mem_intercalate inside with rfl | ⟨w,among,inW⟩
    · decide
    · exact (words w among).2.1 c inW
  have free {c : Char} (unlike : c ≠ ' ') (outside : ∀ w ∈ list, c ∉ w) (behind : c ∉ rest) :
      c ∉ [' '].intercalate list ++ ' ' :: rest := by
    intro inside
    rcases List.mem_append.mp inside with first | later
    · rcases mem_intercalate first with space | ⟨w,among,inW⟩
      · exact unlike space
      · exact outside w among inW
    · rcases List.mem_cons.mp later with space | later
      · exact unlike space
      · exact behind later
  refine ⟨⟨plain_append plain text.1,free (by decide) (fun w among => (words w among).2.2.1) text.2.1,
    free (by decide) (fun w among => (words w among).2.2.2.1) text.2.2⟩,?_⟩
  rw [wordsBy_append_cons (by decide),wordsBy_intercalate (by decide) fun w among => (words w among).1]

/-- The object of directives belongs to these segments. -/
def Parsed (directives : List (Text × Text)) (original : List Text) : Prop :=
  ∀ name ∈ directiveNames, directives.lookup name = (directive? (policyOf original) name).map ([' '].intercalate ·)

def workersAfter (policy : List (List Text)) : Option (List Text) :=
  match directive? policy workerSrc with
  | some list => some (if list.contains blob then list else list ++ [blob])
  | none => ((directive? policy scriptSrc).or (directive? policy defaultSrc)).map (· ++ [blob])

def connectsAfter (policy : List (List Text)) : Option (List Text) :=
  match directive? policy connectSrc with
  | some list =>
    some (if sourceListAllowsDaemonConnects ([' '].intercalate list) then list else list ++ [daemonWs,daemonHttps])
  | none => (directive? policy defaultSrc).map (· ++ [daemonWs,daemonHttps])

def namesAfter (policy : List (List Text)) : Option (List Text) :=
  match directive? policy trustedTypes with
  | some list => some (if list.contains webhidWorker then list else list ++ [webhidWorker])
  | none => some [webhidWorker]

theorem rewriteWorkers_changed {directives : List (Text × Text)} {segments : List Text} (clean : Clean segments)
    (parsed : Parsed directives segments) :
    Changed segments (rewriteWorkers directives segments).1 workerSrc (workersAfter (policyOf segments)) := by
  obtain ⟨word,fresh⟩ := added_token blob (by decide)
  have workers := parsed workerSrc (by decide)
  have scripts := parsed scriptSrc (by decide)
  have defaults := parsed defaultSrc (by decide)
  rw [rewriteWorkers,workersAfter,workers,scripts,defaults]
  cases own : directive? (policyOf segments) workerSrc with
  | some list =>
    rw [Option.map_some]
    dsimp only
    rw [contains_tokens clean own word.some]
    cases there : list.contains blob with
    | true =>
      rw [if_pos rfl,if_pos rfl,← own]
      exact Changed.refl clean workerSrc
    | false =>
      rw [if_neg Bool.false_ne_true,if_neg Bool.false_ne_true]
      exact (appendToDirective_changed clean (by decide) own word fresh (by simpa using there)).2
  | none =>
    have added {name : Text} {list : List Text} (own' : directive? (policyOf segments) name = some list) :
        Changed segments (appendDirective segments workerSrc ([' '].intercalate list ++ ' ' :: blob)) workerSrc
          (some (list ++ [blob])) := by
      obtain ⟨text,words⟩ := joined_value clean own' (show Plain blob ∧ ',' ∉ blob ∧ ';' ∉ blob by decide)
      rw [token_words word] at words
      rw [← words]
      refine appendDirective_changed clean (by decide) own text (by simp) fun w inside => ?_
      rw [words] at inside
      rcases List.mem_append.mp inside with old | added
      · exact (words_of_directive clean own' w old).2.2.2.2
      · rwa [List.mem_singleton.mp added]
    cases script : directive? (policyOf segments) scriptSrc with
    | some list => exact added script
    | none =>
      cases default_ : directive? (policyOf segments) defaultSrc with
      | some list => exact added default_
      | none =>
        have same := Changed.refl clean workerSrc
        rwa [own] at same

theorem sourceListAllowsDaemonConnects_iff {segments : List Text} (clean : Clean segments) {name : Text} {list : List Text}
    (own : directive? (policyOf segments) name = some list) :
    sourceListAllowsDaemonConnects ([' '].intercalate list) = true ↔
      ['*'] ∈ list ∨ "ws:".toList ∈ list ∨ daemonWs ∈ list ∨ "https:".toList ∈ list ∨ daemonHttps ∈ list := by
  rw [sourceListAllowsDaemonConnects,contains_tokens clean own (by decide),contains_tokens clean own (by decide),contains_tokens clean own (by decide),
    contains_tokens clean own (by decide),contains_tokens clean own (by decide)]
  simp only [Bool.or_eq_true,List.contains_iff_mem,or_assoc]

theorem rewriteConnects_changed {directives : List (Text × Text)} {original segments : List Text}
    (before : Clean original) (clean : Clean segments) (parsed : Parsed directives original)
    (same : directive? (policyOf segments) connectSrc = directive? (policyOf original) connectSrc) :
    Changed segments (rewriteConnects directives segments).1 connectSrc (connectsAfter (policyOf original)) := by
  obtain ⟨wordW,freshW⟩ := added_token daemonWs (by decide)
  obtain ⟨wordH,freshH⟩ := added_token daemonHttps (by decide)
  have connects := parsed connectSrc (by decide)
  have defaults := parsed defaultSrc (by decide)
  rw [rewriteConnects,connectsAfter,connects,defaults]
  cases own : directive? (policyOf original) connectSrc with
  | some list =>
    have current := same.trans own
    rw [Option.map_some]
    dsimp only
    cases accepted : sourceListAllowsDaemonConnects ([' '].intercalate list) with
    | true =>
      rw [if_pos rfl,if_pos rfl,← current]
      exact Changed.refl clean connectSrc
    | false =>
      rw [if_neg Bool.false_ne_true,if_neg Bool.false_ne_true]
      have lacks := mt (sourceListAllowsDaemonConnects_iff before own).mpr (by simp [accepted])
      have lacksW : daemonWs ∉ list := fun inside => lacks (.inr (.inr (.inl inside)))
      have lacksH : daemonHttps ∉ list ++ [daemonWs] := by
        intro inside
        rcases List.mem_append.mp inside with old | ws
        · exact lacks (.inr (.inr (.inr (.inr old))))
        · exact absurd (List.mem_singleton.mp ws) (by decide)
      obtain ⟨-,first⟩ := appendToDirective_changed clean (by decide) current wordW freshW lacksW
      have between := first.lists connectSrc (by decide)
      rw [if_pos rfl] at between
      obtain ⟨-,second⟩ := appendToDirective_changed first.clean (by decide) between wordH freshH lacksH
      refine ⟨second.clean,fun other among => ?_⟩
      dsimp only
      rw [second.lists other among]
      split
      · rw [List.append_assoc,List.singleton_append]
      · rename_i unlike
        rw [first.lists other among,if_neg unlike]
  | none =>
    cases default_ : directive? (policyOf original) defaultSrc with
    | some list =>
      have both : Plain (daemonWs ++ ' ' :: daemonHttps) ∧ ',' ∉ daemonWs ++ ' ' :: daemonHttps ∧
          ';' ∉ daemonWs ++ ' ' :: daemonHttps := by decide
      obtain ⟨text,words⟩ := joined_value before default_ both
      rw [wordsBy_append_cons (by decide) daemonWs daemonHttps,token_words wordW,token_words wordH] at words
      have changed := appendDirective_changed clean (show connectSrc ∈ directiveNames by decide) (same.trans own) text
        (by simp)
        fun w inside => by
          rw [words] at inside
          rcases List.mem_append.mp inside with old | added
          · exact (words_of_directive before default_ w old).2.2.2.2
          · rcases List.mem_cons.mp added with rfl | added
            · exact freshW
            · rwa [List.mem_singleton.mp added]
      rwa [words] at changed
    | none =>
      have kept := Changed.refl clean connectSrc
      rwa [same.trans own] at kept

theorem rewriteTrustedTypes_changed {directives : List (Text × Text)} {original segments : List Text}
    (before : Clean original) (clean : Clean segments) (parsed : Parsed directives original)
    (same : directive? (policyOf segments) trustedTypes = directive? (policyOf original) trustedTypes) :
    Changed segments (rewriteTrustedTypes directives segments).1 trustedTypes (namesAfter (policyOf original)) := by
  obtain ⟨word,fresh⟩ := added_token webhidWorker (by decide)
  rw [rewriteTrustedTypes,namesAfter,parsed trustedTypes (by decide)]
  cases own : directive? (policyOf original) trustedTypes with
  | some list =>
    have current := same.trans own
    rw [Option.map_some]
    dsimp only
    rw [contains_tokens before own word.some]
    cases there : list.contains webhidWorker with
    | true =>
      rw [if_pos rfl,if_pos rfl,← current]
      exact Changed.refl clean trustedTypes
    | false =>
      rw [if_neg Bool.false_ne_true,if_neg Bool.false_ne_true]
      exact (appendToDirective_changed clean (by decide) current word fresh (by simpa using there)).2
  | none =>
    have changed := appendDirective_changed clean (show trustedTypes ∈ directiveNames by decide) (same.trans own)
      (show Plain webhidWorker ∧ ',' ∉ webhidWorker ∧ ';' ∉ webhidWorker by decide) (by decide) (by decide)
    rwa [token_words word] at changed

/-- The lists of the policy after the rewriting. -/
def listAfter (policy : List (List Text)) (required : Bool) (name : Text) : Option (List Text) :=
  if name = workerSrc then workersAfter policy
  else if name = connectSrc then connectsAfter policy
  else if name = trustedTypes ∧ required = true then namesAfter policy
  else directive? policy name

theorem parsed_parseDirectives {csp : Text} (plain : Plain csp) : Parsed (parseDirectives csp) (csp.splitOn ';') :=
  fun _ known => lookup_parseDirectives plain known

theorem rewriteCspValue_lists {csp : Text} (plain : Plain csp) (clean : Clean (csp.splitOn ';'))
    (separated : hasUnseparatedDirective csp = false) (required : Bool) :
    ∃ segments, Clean segments ∧ (rewriteCspValue csp required).1 = [';'].intercalate segments ∧
      ∀ name ∈ directiveNames, directive? (policyOf segments) name
        = listAfter (policyOf (csp.splitOn ';')) required name := by
  have parsed := parsed_parseDirectives plain
  have workers := rewriteWorkers_changed clean parsed
  have connects := rewriteConnects_changed clean workers.clean parsed (workers.lists connectSrc (by decide))
  have names := rewriteTrustedTypes_changed clean connects.clean parsed
    ((connects.lists trustedTypes (by decide)).trans (workers.lists trustedTypes (by decide)))
  rw [rewriteCspValue,if_neg (by simp [separated])]
  cases required with
  | true =>
    refine ⟨_,names.clean,rfl,fun name known => ?_⟩
    rw [names.lists name known,connects.lists name known,workers.lists name known,listAfter]
    by_cases isW : name = workerSrc
    · rw [isW]
      rfl
    · by_cases isC : name = connectSrc
      · rw [isC]
        rfl
      · by_cases isT : name = trustedTypes
        · rw [isT]
          rfl
        · simp [isW,isC,isT]
  | false =>
    refine ⟨_,connects.clean,rfl,fun name known => ?_⟩
    rw [connects.lists name known,workers.lists name known,listAfter]
    by_cases isW : name = workerSrc
    · rw [isW]
      rfl
    · simp [isW]

theorem rewriteWorkers_same {directives : List (Text × Text)} {segments : List Text} (clean : Clean segments)
    (parsed : Parsed directives segments) (done : (∃ list, directive? (policyOf segments) workerSrc = some list ∧ blob ∈ list) ∨
      directive? (policyOf segments) workerSrc = none ∧ directive? (policyOf segments) scriptSrc = none ∧
        directive? (policyOf segments) defaultSrc = none) : rewriteWorkers directives segments = (segments,false) := by
  rw [rewriteWorkers,parsed workerSrc (by decide),parsed scriptSrc (by decide),parsed defaultSrc (by decide)]
  rcases done with ⟨list,own,there⟩ | ⟨none,script,default_⟩
  · rw [own,Option.map_some]
    dsimp only
    rw [contains_tokens clean own (by decide),if_pos (List.contains_iff_mem.mpr there)]
  · rw [none,script,default_]
    rfl

theorem rewriteConnects_same {directives : List (Text × Text)} {segments : List Text} (parsed : Parsed directives segments)
    (done : (∃ list, directive? (policyOf segments) connectSrc = some list ∧
        sourceListAllowsDaemonConnects ([' '].intercalate list) = true) ∨
      directive? (policyOf segments) connectSrc = none ∧ directive? (policyOf segments) defaultSrc = none) :
    rewriteConnects directives segments = (segments,false) := by
  rw [rewriteConnects,parsed connectSrc (by decide),parsed defaultSrc (by decide)]
  rcases done with ⟨list,own,accepted⟩ | ⟨none,default_⟩
  · rw [own,Option.map_some]
    dsimp only
    rw [if_pos accepted]
  · rw [none,default_]
    rfl

theorem rewriteTrustedTypes_same {directives : List (Text × Text)} {segments : List Text} (clean : Clean segments)
    (parsed : Parsed directives segments)
    (done : ∃ list, directive? (policyOf segments) trustedTypes = some list ∧ webhidWorker ∈ list) :
    rewriteTrustedTypes directives segments = (segments,false) := by
  obtain ⟨list,own,there⟩ := done
  rw [rewriteTrustedTypes,parsed trustedTypes (by decide),own,Option.map_some]
  dsimp only
  rw [contains_tokens clean own (by decide),if_pos (List.contains_iff_mem.mpr there)]

/-- A policy that was rewritten has all that the code looks for. -/
theorem rewriteCspValue_again {segments original : List Text} (clean : Clean segments)
    {required : Bool} (lists : ∀ name ∈ directiveNames, directive? (policyOf segments) name
      = listAfter (policyOf original) required name) :
    rewriteCspValue ([';'].intercalate segments) required = ([';'].intercalate segments,false) := by
  have plain : Plain ([';'].intercalate segments) := by
    intro c inside
    rcases mem_intercalate inside with rfl | ⟨s,among,own⟩
    · decide
    · exact (clean.text s among).1 c own
  have parsed := parsed_parseDirectives plain
  rw [clean.split] at parsed
  have others (name : Text) (known : name ∈ directiveNames)
      (unlike : name ≠ workerSrc ∧ name ≠ connectSrc ∧ name ≠ trustedTypes) :
      directive? (policyOf segments) name = directive? (policyOf original) name := by
    rw [lists name known,listAfter,if_neg unlike.1,if_neg unlike.2.1,if_neg fun both => unlike.2.2 both.1]
  have script := others scriptSrc (by decide) (by decide)
  have default_ := others defaultSrc (by decide) (by decide)
  have workers : directive? (policyOf segments) workerSrc = workersAfter (policyOf original) :=
    lists workerSrc (by decide)
  have connects : directive? (policyOf segments) connectSrc = connectsAfter (policyOf original) :=
    lists connectSrc (by decide)
  have first : rewriteWorkers (parseDirectives ([';'].intercalate segments)) segments = (segments,false) := by
    refine rewriteWorkers_same clean parsed ?_
    rw [workers,script,default_,workersAfter]
    cases directive? (policyOf original) workerSrc with
    | some list =>
      refine .inl ⟨_,rfl,?_⟩
      split
      · rename_i there
        exact List.contains_iff_mem.mp there
      · simp
    | none =>
      cases directive? (policyOf original) scriptSrc with
      | some list => exact .inl ⟨_,rfl,by simp⟩
      | none =>
        cases directive? (policyOf original) defaultSrc with
        | some list => exact .inl ⟨_,rfl,by simp⟩
        | none => exact .inr ⟨rfl,rfl,rfl⟩
  have second : rewriteConnects (parseDirectives ([';'].intercalate segments)) segments = (segments,false) := by
    refine rewriteConnects_same parsed ?_
    have accepted {list : List Text} (own : connectsAfter (policyOf original) = some (list ++ [daemonWs,daemonHttps])) :
        sourceListAllowsDaemonConnects ([' '].intercalate (list ++ [daemonWs,daemonHttps])) = true :=
      (sourceListAllowsDaemonConnects_iff clean (connects.trans own)).mpr (.inr (.inr (.inl (by simp))))
    rw [default_,connects]
    cases own : directive? (policyOf original) connectSrc with
    | some list =>
      cases already : sourceListAllowsDaemonConnects ([' '].intercalate list) with
      | true => exact .inl ⟨list,by simp [connectsAfter,own,already],already⟩
      | false =>
        have after : connectsAfter (policyOf original) = some (list ++ [daemonWs,daemonHttps]) := by
          simp [connectsAfter,own,already]
        exact .inl ⟨_,after,accepted after⟩
    | none =>
      cases fallback : directive? (policyOf original) defaultSrc with
      | some list =>
        have after : connectsAfter (policyOf original) = some (list ++ [daemonWs,daemonHttps]) := by
          simp [connectsAfter,own,fallback]
        exact .inl ⟨_,after,accepted after⟩
      | none => exact .inr ⟨by simp [connectsAfter,own,fallback],rfl⟩
  rw [rewriteCspValue,if_neg (by simp [clean.separate]),clean.split]
  dsimp only
  rw [first]
  dsimp only
  rw [second]
  cases required with
  | false => rfl
  | true =>
    have third : rewriteTrustedTypes (parseDirectives ([';'].intercalate segments)) segments = (segments,false) := by
      refine rewriteTrustedTypes_same clean parsed ?_
      have names : directive? (policyOf segments) trustedTypes = namesAfter (policyOf original) :=
        lists trustedTypes (by decide)
      rw [names,namesAfter]
      cases directive? (policyOf original) trustedTypes with
      | none => exact ⟨_,rfl,by simp⟩
      | some list =>
        refine ⟨_,rfl,?_⟩
        split
        · rename_i there
          exact List.contains_iff_mem.mp there
        · simp
    dsimp only
    rw [if_pos rfl,third]
    rfl

/-! ### What the browser allows -/

section Semantics
variable {υ : Type} (sources : Sources υ)

theorem listCovers_eq (list : List Text) (url : υ) :
    listCovers sources.covers list url = list.any fun e => sources.covers e url := by
  rw [listCovers]
  cases only : list.map lower != ["'none'".toList] with
  | true => rfl
  | false =>
    rw [bne_eq_false_iff_eq,List.map_eq_singleton_iff] at only
    obtain ⟨e,rfl,none⟩ := only
    simp [sources.none e url none]

theorem listCovers_append (one two : List Text) (url : υ) :
    listCovers sources.covers (one ++ two) url = (listCovers sources.covers one url || listCovers sources.covers two url) := by
  simp only [listCovers_eq,List.any_append]

theorem listCovers_mem {list : List Text} {source : Text} (inside : source ∈ list) {url : υ}
    (covered : sources.covers source url = true) : listCovers sources.covers list url = true := by
  rw [listCovers_eq,List.any_eq_true]
  exact ⟨source,inside,covered⟩

/-- A list with `blob:` in addition. -/
theorem listCovers_blob (list : List Text) (url : υ) :
    listCovers sources.covers (if list.contains blob then list else list ++ [blob]) url
      = (listCovers sources.covers list url || sources.covers blob url) := by
  split
  · rename_i there
    cases covered : sources.covers blob url with
    | false => rw [Bool.or_false]
    | true => rw [listCovers_mem sources (List.contains_iff_mem.mp there) covered,Bool.true_or]
  · rw [listCovers_append,listCovers_eq sources [blob]]
    simp

theorem listCovers_daemon (list : List Text) (url : υ) :
    listCovers sources.covers (list ++ [daemonWs,daemonHttps]) url
      = (listCovers sources.covers list url || (sources.covers daemonWs url || sources.covers daemonHttps url)) := by
  rw [listCovers_append,listCovers_eq sources [daemonWs,daemonHttps]]
  simp

theorem allowsWorker_own {policy : List (List Text)} {list : List Text} (own : directive? policy workerSrc = some list)
    (url : υ) : allowsWorker sources policy url = listCovers sources.covers list url := by
  rw [allowsWorker,governing,List.findSome?_cons,own]

theorem allowsWorker_congr {policy after : List (List Text)} (without : directive? after workerSrc = directive? policy workerSrc)
    (same : ∀ name ∈ ["child-src".toList,scriptSrc,defaultSrc], directive? after name = directive? policy name) (url : υ) :
    allowsWorker sources after url = allowsWorker sources policy url := by
  simp only [List.forall_mem_cons] at same
  simp only [allowsWorker,governing,List.findSome?_cons,List.findSome?_nil,without,same.1,same.2.1,same.2.2.1]

theorem governing_congr {policy after : List (List Text)} {chain : List Text}
    (same : ∀ name ∈ chain, directive? after name = directive? policy name) : governing after chain = governing policy chain := by
  induction chain with
  | nil => rfl
  | cons name chain ih =>
    rw [List.forall_mem_cons] at same
    have rest : List.findSome? (directive? after) chain = List.findSome? (directive? policy) chain := ih same.2
    rw [governing,governing,List.findSome?_cons,List.findSome?_cons,same.1,rest]

theorem all_single {csp : Text} (single : ',' ∉ csp) (allows : List (List Text) → Bool) :
    All csp allows ↔ allows (policyOf (csp.splitOn ';')) = true := by
  rw [All,readPolicies_single single]
  simp

theorem loadChains_names : ∀ chain ∈ loadChains, ∀ name ∈ chain,
    name ∈ directiveNames ∧ name ≠ workerSrc ∧ name ≠ connectSrc ∧ name ≠ trustedTypes := by decide +kernel

section Rewritten
variable {policy after : List (List Text)} {required : Bool}
  (lists : ∀ name ∈ directiveNames, directive? after name = listAfter policy required name)
include lists

theorem others_after {name : Text} (known : name ∈ directiveNames)
    (unlike : name ≠ workerSrc ∧ name ≠ connectSrc ∧ name ≠ trustedTypes) : directive? after name = directive? policy name := by
  rw [lists name known,listAfter,if_neg unlike.1,if_neg unlike.2.1,if_neg fun both => unlike.2.2 both.1]

/-- Everything else is governed by the lists that it was governed by. -/
theorem loads_after {chain : List Text} (among : chain ∈ loadChains) : governing after chain = governing policy chain :=
  governing_congr fun name inside => others_after lists (loadChains_names chain among name inside).1
    (loadChains_names chain among name inside).2

theorem workers_after_iff :
    (∀ url, allowsWorker sources after url = true ↔
        allowsWorker sources policy url = true ∨ sources.covers blob url = true) ↔
      (∀ list, directive? policy workerSrc = none →
        (directive? policy scriptSrc).or (directive? policy defaultSrc) = some list →
        ∀ url, sources.covers blob url = false → allowsWorker sources policy url = listCovers sources.covers list url) ∧
      (directive? policy workerSrc = none → (directive? policy scriptSrc).or (directive? policy defaultSrc) = none →
        ∀ url, sources.covers blob url = true → allowsWorker sources policy url = true) := by
  have own : directive? after workerSrc = workersAfter policy := lists workerSrc (by decide)
  rw [workersAfter] at own
  cases before : directive? policy workerSrc with
  | some list =>
    rw [before] at own
    refine iff_of_true (fun url => ?_) ⟨fun _ absent => (nomatch absent),fun absent => (nomatch absent)⟩
    rw [allowsWorker_own sources own,allowsWorker_own sources before,listCovers_blob,Bool.or_eq_true]
  | none =>
    rw [before] at own
    dsimp only at own
    cases fallback : (directive? policy scriptSrc).or (directive? policy defaultSrc) with
    | some list =>
      rw [fallback,Option.map_some] at own
      have covers (url : υ) : allowsWorker sources after url
          = (listCovers sources.covers list url || sources.covers blob url) := by
        rw [allowsWorker_own sources own,listCovers_append,listCovers_eq sources [blob]]
        simp
      simp only [covers,Bool.or_eq_true,reduceCtorEq,false_implies,implies_true,and_true,Option.some.injEq,true_implies,
        forall_eq']
      constructor
      · intro same url other
        have here := same url
        rw [Bool.eq_iff_iff]
        simpa [other] using here.symm
      · intro copied url
        cases covered : sources.covers blob url with
        | true => simp
        | false => rw [copied url covered]
    | none =>
      rw [fallback,Option.map_none] at own
      have same (url : υ) := allowsWorker_congr sources (own.trans before.symm)
        (by
          have known : ∀ name ∈ ["child-src".toList,scriptSrc,defaultSrc], name ∈ directiveNames ∧
            name ≠ workerSrc ∧ name ≠ connectSrc ∧ name ≠ trustedTypes := by decide
          exact fun name inside => others_after lists (known name inside).1 (known name inside).2) url
      simp only [same,reduceCtorEq,false_implies,implies_true,true_and,true_implies]
      exact forall_congr' fun url => ⟨fun iff covered => iff.mpr (.inr covered),
        fun through => ⟨.inl,fun either => either.elim id through⟩⟩

theorem connects_after_iff :
    (∀ url, allowsConnect sources after url = true ↔
        allowsConnect sources policy url = true ∨ sources.covers daemonWs url = true ∨ sources.covers daemonHttps url = true) ↔
      ∀ list, directive? policy connectSrc = some list → sourceListAllowsDaemonConnects ([' '].intercalate list) = true →
        ∀ url, sources.covers daemonWs url = true ∨ sources.covers daemonHttps url = true →
          listCovers sources.covers list url = true := by
  have own : directive? after connectSrc = connectsAfter policy := lists connectSrc (by decide)
  have default_ := others_after lists (show defaultSrc ∈ directiveNames by decide) (by decide)
  have grown (list : List Text) (url : υ) : listCovers sources.covers (list ++ [daemonWs,daemonHttps]) url = true ↔
      listCovers sources.covers list url = true ∨ sources.covers daemonWs url = true ∨ sources.covers daemonHttps url = true := by
    rw [listCovers_daemon,Bool.or_eq_true,Bool.or_eq_true]
  rw [connectsAfter] at own
  simp only [allowsConnect,governing,List.findSome?_cons,List.findSome?_nil,own,default_]
  cases before : directive? policy connectSrc with
  | some list =>
    dsimp only
    cases already : sourceListAllowsDaemonConnects ([' '].intercalate list) with
    | true =>
      simp only [if_true,Option.all_some,Option.some.injEq,forall_eq',already,true_implies]
      exact forall_congr' fun url => ⟨fun iff covered => iff.mpr (.inr covered),
        fun through => ⟨.inl,fun either => either.elim id through⟩⟩
    | false =>
      refine iff_of_true (fun url => ?_) fun other same accepted => ?_
      · rw [if_neg Bool.false_ne_true,Option.all_some,Option.all_some]
        exact grown list url
      · rw [← Option.some.inj same,already] at accepted
        cases accepted
  | none =>
    refine iff_of_true (fun url => ?_) fun _ absent => by cases absent
    cases directive? policy defaultSrc with
    | some list => exact grown list url
    | none => simp

theorem names_after (named : required = true → directive? policy trustedTypes ≠ none) (name : Text) (duplicate : Bool) :
    (allowsName policy name duplicate = true → allowsName after name duplicate = true) ∧
      (allowsName after name duplicate = true →
        allowsName policy name duplicate = true ∨ (required = true ∧ name = webhidWorker)) := by
  have own : directive? after trustedTypes = if required = true then namesAfter policy else directive? policy trustedTypes := by
    rw [lists trustedTypes (by decide),listAfter,if_neg (by decide),if_neg (by decide)]
    simp
  cases needed : required with
  | false =>
    rw [needed,if_neg Bool.false_ne_true] at own
    simp [allowsName,own]
  | true =>
    rw [needed,if_pos rfl,namesAfter] at own
    obtain ⟨list,before⟩ := Option.ne_none_iff_exists'.mp (named needed)
    rw [before] at own
    dsimp only at own
    split at own
    · have same : allowsName after name duplicate = allowsName policy name duplicate := by
        rw [allowsName,allowsName,own,before]
      exact ⟨fun allowed => same.trans allowed,fun allowed => .inl (same.symm.trans allowed)⟩
    · have keyword : (lower webhidWorker == "'allow-duplicates'".toList) = false := by decide
      have star : (['*'] == webhidWorker) = false := by decide
      simp only [allowsName,own,before,Option.all_some,List.contains_append,List.any_append,List.any_cons,List.any_nil,
        List.contains_cons,List.contains_nil,keyword,star,Bool.or_false,Bool.and_eq_true,Bool.or_eq_true,beq_iff_eq]
      grind

/-- A list of names that was not there forbids all names but one. -/
theorem named_of_names (needed : required = true) (absent : directive? policy trustedTypes = none) :
    allowsName policy ['a'] false = true ∧ allowsName after ['a'] false = false := by
  have own : directive? after trustedTypes = some [webhidWorker] := by
    rw [lists trustedTypes (by decide),listAfter,if_neg (by decide),if_neg (by decide),if_pos ⟨rfl,needed⟩,namesAfter,absent]
  rw [allowsName,allowsName,absent,own]
  decide

end Rewritten

/-- The value is one policy. Where `worker-src` is added, the list that it copies lets the same
    workers through as before; where it is not, blob workers are let through. A list that the code
    takes to allow the daemon covers both addresses. And a list of names is there, if names count. -/
structure RewriteFits (required : Bool) (csp : Text) : Prop where
  single : ',' ∉ csp
  copied (list : List Text) : directive? (policyOf (csp.splitOn ';')) workerSrc = none →
    (directive? (policyOf (csp.splitOn ';')) scriptSrc).or (directive? (policyOf (csp.splitOn ';')) defaultSrc) = some list →
    ∀ url, sources.covers blob url = false →
      allowsWorker sources (policyOf (csp.splitOn ';')) url = listCovers sources.covers list url
  untouched : directive? (policyOf (csp.splitOn ';')) workerSrc = none →
    (directive? (policyOf (csp.splitOn ';')) scriptSrc).or (directive? (policyOf (csp.splitOn ';')) defaultSrc) = none →
    ∀ url, sources.covers blob url = true → allowsWorker sources (policyOf (csp.splitOn ';')) url = true
  accepted (list : List Text) : directive? (policyOf (csp.splitOn ';')) connectSrc = some list →
    sourceListAllowsDaemonConnects ([' '].intercalate list) = true →
    ∀ url, sources.covers daemonWs url = true ∨ sources.covers daemonHttps url = true →
      listCovers sources.covers list url = true
  named : required = true → directive? (policyOf (csp.splitOn ';')) trustedTypes ≠ none

theorem separated_of_modified {csp : Text} {required : Bool} (modified : (rewriteCspValue csp required).2 = true) :
    hasUnseparatedDirective csp = false := by
  by_contra unseparated
  rw [rewriteCspValue,if_pos (by simpa using unseparated)] at modified
  cases modified

/-- A modified value allows what it has to and no more when it fits, and only then if it is one policy.
    A value with commas never fits: the code splits it at semicolons only, so that a segment may hold the end of one
    policy and the start of the next, where the browser reads several policies that all have to allow. Of these values
    nothing is said: whether what is added ends up in each policy depends on where the commas are. -/
theorem onlyAdds_iff {csp : Text} (plain : Plain csp) {required : Bool} (modified : (rewriteCspValue csp required).2 = true) :
    (RewriteFits sources required csp → OnlyAdds sources required csp (rewriteCspValue csp required).1) ∧
      (',' ∉ csp → OnlyAdds sources required csp (rewriteCspValue csp required).1 → RewriteFits sources required csp) := by
  have separated := separated_of_modified modified
  constructor
  · intro fits
    obtain ⟨segments,clean,value,lists⟩ :=
      rewriteCspValue_lists plain (clean_splitOn plain fits.single separated) separated required
    have after (allows : List (List Text) → Bool) : All (rewriteCspValue csp required).1 allows ↔
        allows (policyOf segments) = true := by rw [value,all_single clean.single,clean.split]
    have before (allows : List (List Text) → Bool) := all_single fits.single allows
    refine ⟨fun chain among allows => ?_,fun url => ?_,fun url => ?_,fun name duplicate => ?_,fun name duplicate => ?_,?_⟩
    · rw [after,before,loads_after lists among]
    · rw [after,before]
      exact (workers_after_iff sources lists).mpr ⟨fits.copied,fits.untouched⟩ url
    · rw [after,before]
      exact (connects_after_iff sources lists).mpr fits.accepted url
    · rw [after,before]
      exact (names_after lists fits.named name duplicate).1
    · rw [after,before]
      exact (names_after lists fits.named name duplicate).2
    · rw [value]
      exact rewriteCspValue_again clean lists
  · intro single only
    obtain ⟨segments,clean,value,lists⟩ :=
      rewriteCspValue_lists plain (clean_splitOn plain single separated) separated required
    have after (allows : List (List Text) → Bool) : All (rewriteCspValue csp required).1 allows ↔
        allows (policyOf segments) = true := by rw [value,all_single clean.single,clean.split]
    have before (allows : List (List Text) → Bool) := all_single single allows
    have workers := only.workers
    have connects := only.connects
    simp only [after,before] at workers connects
    obtain ⟨copied,untouched⟩ := (workers_after_iff sources lists).mp workers
    refine ⟨single,copied,untouched,(connects_after_iff sources lists).mp connects,fun needed absent => ?_⟩
    obtain ⟨allowed,refused⟩ := named_of_names lists needed absent
    have still := only.names ['a'] false ((before _).mpr allowed)
    rw [after,refused] at still
    cases still

end Semantics

/-- Sources of a page of `https://example.com`: keywords, schemes, and the two addresses. -/
def pageSources : Sources Text where
  covers source url := lower source != "'none'".toList &&
    ((source == "'self'".toList && "https://example.com/".toList.isPrefixOf url) ||
      (source.getLast? == some ':' && source.isPrefixOf url) ||
      (source == daemonWs && "ws://127.0.0.1:".toList.isPrefixOf url) ||
      (source == daemonHttps && "https://127.0.0.1:".toList.isPrefixOf url))
  none source url none := by rw [none,bne_self_eq_false,Bool.false_and]

theorem onlyAdds_self : OnlyAdds pageSources false "default-src 'self'; img-src *".toList
    (rewriteCspValue "default-src 'self'; img-src *".toList false).1 := by
  have read : policyOf ("default-src 'self'; img-src *".toList.splitOn ';')
      = [["default-src".toList,"'self'".toList],["img-src".toList,['*']]] := by decide +kernel
  refine (onlyAdds_iff pageSources (by decide +kernel) (by decide +kernel)).1 ⟨by decide +kernel,?_,?_,?_,nofun⟩
  · rw [read]
    intro list _ fallback url _
    obtain rfl := Option.some.inj ((by decide +kernel : some ["'self'".toList] = _).trans fallback)
    rfl
  · rw [read]
    intro _ none
    exact absurd none (by decide +kernel)
  · rw [read]
    intro list own
    exact absurd ((by decide +kernel : none = _).trans own) nofun

/-- The code takes a list with `https:` to allow the daemon, and leaves WebSockets to it forbidden. -/
theorem https_only_refused :
    (rewriteCspValue "default-src 'self'; connect-src https:".toList false).2 = true ∧
      ¬ OnlyAdds pageSources false "default-src 'self'; connect-src https:".toList
        (rewriteCspValue "default-src 'self'; connect-src https:".toList false).1 := by
  refine ⟨by decide +kernel,fun only => ?_⟩
  have allowed := (only.connects "ws://127.0.0.1:8080/".toList).mpr (.inr (.inl (by decide +kernel)))
  have refused : ¬ All (rewriteCspValue "default-src 'self'; connect-src https:".toList false).1
      fun policy => allowsConnect pageSources policy "ws://127.0.0.1:8080/".toList := by decide +kernel
  exact refused allowed

end FFWebHid.CspRewrites
