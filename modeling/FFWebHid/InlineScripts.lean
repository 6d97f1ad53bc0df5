import FFWebHid.CspText

/-!
The permission for the script of the extension: `allowInlineScript` adds a hash to the
list that governs scripts. What the browser lets through is decided policy by policy.
-/
namespace FFWebHid.InlineScripts
open FFWebHid.CspText FFWebHid.Separators
open FFWebHid.Policies (trim)

/-- The index of `script-src-elem`, or else of `script-src`, or else of `default-src`. -/
def scriptSegment (csp : Text) : Option Nat :=
  let names := (csp.splitOn ';').map firstWord
  ((names.idxOf? (some "script-src-elem".toList)).or (names.idxOf? (some "script-src".toList))).or
    (names.idxOf? (some "default-src".toList))

/-- The checks on the text of the directive. -/
def wantsToken (value token : Text) : Bool :=
  let hasUnsafeInline := includes value "'unsafe-inline'".toList
  let hasNonce := includes value "'nonce-".toList
  let hasHash := ["'sha256-","'sha384-","'sha512-"].any fun start => includes value start.toList
  !includes value token && !(hasUnsafeInline && !hasNonce && !hasHash)

def allowInlineScript (csp token : Text) : Option Text :=
  if hasUnseparatedDirective csp then none
  else
    let segments := csp.splitOn ';'
    match scriptSegment csp with
    | none => none
    | some index =>
      let value := trim (segments.getD index [])
      if wantsToken value token then some ([';'].intercalate (segments.set index (value ++ ' ' :: token))) else none

/-- A header of a response; one that is not text has no value here. -/
structure Header where
  name : Text
  value : Option Text
  deriving DecidableEq

def Header.isCsp (h : Header) : Bool := lower h.name == "content-security-policy".toList

/-- `h.value || ''`. -/
def Header.text (h : Header) : Text := h.value.getD []

/-- What a rewriting makes of one header, if it changes it. -/
def rewriteHeader (rewrite : Text → Option Text) (h : Header) : Option Header :=
  if h.isCsp then
    match rewrite h.text with
    | none => none
    | some value => if some value = h.value then none else some ⟨h.name,some value⟩
  else none

def rewriteCspHeaders (headers : List Header) (rewrite : Text → Option Text) : Option (List Header) :=
  let out := headers.map fun h => (rewriteHeader rewrite h).getD h
  let changed := headers.any fun h => (rewriteHeader rewrite h).isSome
  if changed then some out else none

inductive Algorithm where
  | sha256
  | sha384
  | sha512
  deriving DecidableEq, Repr

def Algorithm.start : Algorithm → Text
  | .sha256 => "'sha256-".toList
  | .sha384 => "'sha384-".toList
  | .sha512 => "'sha512-".toList

def Algorithm.size : Algorithm → Nat
  | .sha256 => 32
  | .sha384 => 48
  | .sha512 => 64

/-- The hash functions, on the sources of scripts. -/
structure Digests (σ : Type) where
  bytes : Algorithm → σ → List UInt8
  length : ∀ algorithm source, (bytes algorithm source).length = algorithm.size

def isBase64Char (c : Char) : Bool := c.isAlphanum || "+/-_".toList.contains c

/-- `base64-value` of the grammar. -/
def isBase64Value (v : Text) : Bool :=
  !(v.takeWhile isBase64Char).isEmpty && [[],['='],['=','=']].contains (v.dropWhile isBase64Char)

/-- The value of a source in quotes that begins so, in any case. -/
def quotedValue (start source : Text) : Option Text :=
  let value := (source.drop start.length).dropLast
  if lower (source.take start.length) = start ∧ source.getLast? = some '\'' ∧ isBase64Value value = true then some value
  else none

def nonceSource? (source : Text) : Option Text := quotedValue "'nonce-".toList source

def hashSource? (source : Text) : Option (Algorithm × Text) :=
  [Algorithm.sha256,.sha384,.sha512].findSome? fun a => (quotedValue a.start source).map (a,·)

def isStrictDynamic (source : Text) : Bool := lower source == "'strict-dynamic'".toList

/-- The other two characters that base64 has for 62 and 63. -/
def standardChar (c : Char) : Char := if c = '-' then '+' else if c = '_' then '/' else c

/-- A script element with text of its own. -/
structure InlineScript (σ : Type) where
  nonce : Text
  source : σ

/-- `'unsafe-inline'` is in force: no nonce, no hash and no `'strict-dynamic'` is in the list. -/
def unsafeInline (list : List Text) : Bool :=
  (list.all fun e => (nonceSource? e).isNone && (hashSource? e).isNone && !isStrictDynamic e) &&
    list.any fun e => lower e == "'unsafe-inline'".toList

/-- A source with the nonce of the script, or with its hash. -/
def matchesInline {σ : Type} (digests : Digests σ) (list : List Text) (s : InlineScript σ) : Bool :=
  list.any fun e => nonceSource? e == some s.nonce ||
    (hashSource? e).any fun h => h.2.map standardChar == Base64.encodeChars (digests.bytes h.1 s.source)

def listAllowsInline {σ : Type} (digests : Digests σ) (list : List Text) (s : InlineScript σ) : Bool :=
  unsafeInline list || matchesInline digests list s

/-- A script element with a URL. -/
structure ExternalScript (υ : Type) where
  nonce : Text
  integrity : List (Algorithm × Text)
  parserInserted : Bool
  url : υ

/-- How the sources of a list cover a URL; `'none'` alone covers none. -/
def listCovers {υ : Type} (covers : Text → υ → Bool) (list : List Text) (url : υ) : Bool :=
  list.map lower != ["'none'".toList] && list.any fun e => covers e url

def listAllowsExternal {υ : Type} (covers : Text → υ → Bool) (list : List Text) (x : ExternalScript υ) : Bool :=
  (list.any fun e => nonceSource? e == some x.nonce) ||
    (!x.integrity.isEmpty && x.integrity.all fun m => list.any fun e => hashSource? e == some m) ||
    if list.any isStrictDynamic then !x.parserInserted else listCovers covers list x.url

/-- Script elements are governed by the first of these that a policy has. -/
def scriptChain : List Text := ["script-src-elem","script-src","default-src"].map String.toList

def scriptList (policy : List (List Text)) : Option (List Text) := governing policy scriptChain

def policiesOf (headers : List Header) : List (List (List Text)) :=
  (headers.filter Header.isCsp).flatMap fun h => readPolicies h.text

/-- Every policy has to let a script through; one without a list for scripts lets all through. -/
def Allows (headers : List Header) (allows : List Text → Bool) : Prop :=
  ∀ policy ∈ policiesOf headers, (scriptList policy).all allows = true

instance (headers : List Header) (allows : List Text → Bool) : Decidable (Allows headers allows) :=
  inferInstanceAs (Decidable (∀ policy ∈ policiesOf headers, (scriptList policy).all allows = true))

def AllowsInline {σ : Type} (digests : Digests σ) (headers : List Header) (s : InlineScript σ) : Prop :=
  Allows headers fun list => listAllowsInline digests list s

def AllowsExternal {υ : Type} (covers : Text → υ → Bool) (headers : List Header) (x : ExternalScript υ) : Prop :=
  Allows headers fun list => listAllowsExternal covers list x

/-- `mv2ScriptHashToken`: the hash of the script of the extension, as a source. -/
def scriptHashToken {σ : Type} (digests : Digests σ) (script : σ) : Text :=
  Algorithm.sha256.start ++ Base64.encodeChars (digests.bytes .sha256 script) ++ ['\'']

def Hashed {σ : Type} (digests : Digests σ) (script : σ) (s : InlineScript σ) : Prop :=
  digests.bytes .sha256 s.source = digests.bytes .sha256 script

/-- The script with the hash is let through, every script still is that was, and no other
    inline script is. -/
structure Permitted {σ υ : Type} (digests : Digests σ) (covers : Text → υ → Bool) (script : σ)
    (before after : List Header) : Prop where
  hashed (s : InlineScript σ) : Hashed digests script s → AllowsInline digests after s
  inline (s : InlineScript σ) : AllowsInline digests before s → AllowsInline digests after s
  external (x : ExternalScript υ) : AllowsExternal covers before x → AllowsExternal covers after x
  others (s : InlineScript σ) : AllowsInline digests after s → ¬ Hashed digests script s → AllowsInline digests before s

theorem rewriteHeader_isCsp (rewrite : Text → Option Text) (h : Header) :
    ((rewriteHeader rewrite h).getD h).isCsp = h.isCsp := by
  unfold rewriteHeader
  split
  · split
    · rfl
    · split <;> rfl
  · rfl

theorem rewriteHeader_text (rewrite : Text → Option Text) {h : Header} (csp : h.isCsp = true) :
    ((rewriteHeader rewrite h).getD h).text = (rewrite h.text).getD h.text := by
  unfold rewriteHeader
  rw [if_pos csp]
  cases rewrite h.text with
  | none => rfl
  | some value =>
    dsimp only
    split
    · rename_i same
      rw [Option.getD_none,Option.getD_some,Header.text,← same,Option.getD_some]
    · rfl

/-- The policies after a rewriting are those of the values that it gives. -/
theorem policiesOf_rewritten (headers : List Header) (rewrite : Text → Option Text) :
    policiesOf ((rewriteCspHeaders headers rewrite).getD headers)
      = (headers.filter Header.isCsp).flatMap fun h => readPolicies ((rewrite h.text).getD h.text) := by
  have mapped : (rewriteCspHeaders headers rewrite).getD headers
      = headers.map fun h => (rewriteHeader rewrite h).getD h := by
    rw [rewriteCspHeaders]
    cases changed : headers.any fun h => (rewriteHeader rewrite h).isSome with
    | true => rfl
    | false =>
      refine (List.map_id headers).symm.trans (List.map_congr_left fun h among => ?_)
      have same := List.any_eq_false.mp changed h among
      rw [Bool.not_eq_true,Option.isSome_eq_false_iff,Option.isNone_iff_eq_none] at same
      rw [same,Option.getD_none]
      rfl
  have names : (Header.isCsp ∘ fun h => (rewriteHeader rewrite h).getD h) = Header.isCsp :=
    funext (rewriteHeader_isCsp rewrite)
  rw [policiesOf,mapped,List.filter_map,names,List.flatMap_map]
  refine List.flatMap_congr fun h among => ?_
  rw [rewriteHeader_text rewrite (List.mem_filter.mp among).2]

/-- The segment that is given the token. -/
def extendedSegment (csp token : Text) : Option Nat :=
  if hasUnseparatedDirective csp then none
  else (scriptSegment csp).filter fun index => wantsToken (trim ((csp.splitOn ';').getD index [])) token

/-- The segment ends in this policy of the value, in the directive that governs scripts there. -/
def grants (csp token : Text) (k : Nat) : Bool :=
  (extendedSegment csp token).any fun index => (place (rows csp) index).1 == k &&
    governingPlace ((readPolicies csp).getD k []) scriptChain == some (place (rows csp) index).2

theorem allowInlineScript_eq (csp token : Text) :
    allowInlineScript csp token = (extendedSegment csp token).map fun index => extendSegment csp index token := by
  unfold allowInlineScript extendedSegment
  split
  · rfl
  · cases scriptSegment csp with
    | none => rfl
    | some index =>
      dsimp only
      rw [Option.filter_some]
      split
      · rw [Option.map_some,extendSegment,List.modify_eq_set,List.getD_eq_getElem?_getD]
        rfl
      · rfl

theorem scriptSegment_inside {csp : Text} {index : Nat} (found : scriptSegment csp = some index) :
    index < (csp.splitOn ';').length := by
  have bound {name : Option Text} (first : ((csp.splitOn ';').map firstWord).idxOf? name = some index) :
      index < (csp.splitOn ';').length := by
    obtain ⟨inside,-⟩ := List.idxOf?_eq_some_iff.mp first
    rwa [List.length_map] at inside
  rw [scriptSegment,Option.or_eq_some_iff,Option.or_eq_some_iff] at found
  rcases found with (first | ⟨-,first⟩) | ⟨-,first⟩
  · exact bound first
  · exact bound first
  · exact bound first

theorem extendedSegment_inside {csp token : Text} {index : Nat} (extended : extendedSegment csp token = some index) :
    index < (csp.splitOn ';').length := by
  rw [extendedSegment] at extended
  split at extended
  · cases extended
  · exact scriptSegment_inside (Option.filter_eq_some_iff.mp extended).1

/-- The lists for scripts after a rewriting: a policy that is granted the token has it in its
    list, and the list of every other policy is as before. -/
theorem scriptLists_rewritten {csp token : Text} (plain : Plain csp) (word : Token token)
    (unnamed : lower token ∉ scriptChain) (k : Nat) :
    (readPolicies ((allowInlineScript csp token).getD csp))[k]?.map scriptList
      = (readPolicies csp)[k]?.map fun policy =>
          if grants csp token k then (scriptList policy).map (· ++ [token]) else scriptList policy := by
  rw [allowInlineScript_eq]
  cases extended : extendedSegment csp token with
  | none => simp [grants,extended]
  | some index =>
    rw [Option.map_some,Option.getD_some,readPolicies_extendSegment plain (extendedSegment_inside extended) word,
      List.getElem?_modify]
    cases read : (readPolicies csp)[k]? with
    | none => simp
    | some policy =>
      have granted : grants csp token k = true ↔ (place (rows csp) index).1 = k ∧
          governingPlace policy scriptChain = some (place (rows csp) index).2 := by
        simp [grants,extended,read]
      by_cases here : (place (rows csp) index).1 = k
      · simp only [granted,here,if_true,true_and,Option.map_eq_map,Option.map_some,scriptList,
          governing_modify unnamed]
      · simp [granted,here]

/-! ### The token -/

theorem isBase64Value_encodeChars {bytes : List UInt8} (some : bytes ≠ []) :
    isBase64Value (Base64.encodeChars bytes) = true := by
  obtain ⟨front,count,few,split,inside,filled⟩ := Base64.encodeChars_filled bytes
  have base : ∀ c ∈ front, isBase64Char c = true := by
    have all : ∀ c ∈ Base64.alphabet, isBase64Char c = true := List.all_eq_true.mp (by decide +kernel)
    exact fun c among => all c (inside c among)
  have stop : isBase64Char '=' = false := by decide
  obtain ⟨c,rest,shape⟩ := List.exists_cons_of_ne_nil (filled some)
  have stops : (List.replicate count '=').dropWhile isBase64Char = List.replicate count '=' := by
    cases count with
    | zero => rfl
    | succ n => rw [List.replicate_succ,List.dropWhile_cons_of_neg (by simp [stop])]
  have begins : (!((front ++ List.replicate count '=').takeWhile isBase64Char).isEmpty) = true := by
    rw [shape,List.cons_append,List.takeWhile_cons_of_pos (base c (by simp [shape]))]
    rfl
  rw [isBase64Value,split,begins,List.dropWhile_append_of_pos base,stops]
  match count,few with
  | 0,_ => rfl
  | 1,_ => rfl
  | 2,_ => rfl

theorem quotedValue_value {start v : Text} (small : lower start = start) (base : isBase64Value v = true) :
    quotedValue start (start ++ v ++ ['\'']) = some v := by
  rw [quotedValue,List.append_assoc,List.take_left,List.drop_left,List.dropLast_concat]
  exact if_pos ⟨small,by rw [← List.append_assoc,List.getLast?_concat],base⟩

theorem start_isLower (a : Algorithm) : lower a.start = a.start := by cases a <;> decide

section Semantics
variable {σ υ : Type} (digests : Digests σ) (script : σ)

theorem bytes_some (a : Algorithm) (s : σ) : digests.bytes a s ≠ [] := by
  have length := digests.length a s
  intro empty
  rw [empty] at length
  cases a <;> cases length

theorem hashSource?_token :
    hashSource? (scriptHashToken digests script) = some (.sha256,Base64.encodeChars (digests.bytes .sha256 script)) := by
  rw [hashSource?,List.findSome?_cons,scriptHashToken,
    quotedValue_value (start_isLower .sha256) (isBase64Value_encodeChars (bytes_some digests .sha256 script))]
  rfl

theorem nonceSource?_token : nonceSource? (scriptHashToken digests script) = none := by
  rw [nonceSource?,quotedValue,if_neg]
  rintro ⟨begins,-⟩
  rw [scriptHashToken,List.append_assoc,List.take_append_of_le_length (by decide)] at begins
  exact absurd begins (by decide)

theorem token_char {c : Char} (inside : c ∈ scriptHashToken digests script) :
    c ∈ Algorithm.sha256.start ++ Base64.alphabet ++ ['='] := by
  rw [scriptHashToken,List.mem_append,List.mem_append] at inside
  rcases inside with (start | value) | stop
  · simp [start]
  · rcases Base64.mem_encodeChars value with letter | fill
    · simp [letter]
    · simp [fill]
  · rw [List.mem_singleton.mp stop]
    decide

theorem token_word : Token (scriptHashToken digests script) where
  plain c inside := by
    have all : ∀ c ∈ Algorithm.sha256.start ++ Base64.alphabet ++ ['='], isPlain c = true :=
      List.all_eq_true.mp (by decide +kernel)
    exact all c (token_char digests script inside)
  some := by simp [scriptHashToken]
  free c inside := by
    have all : ∀ c ∈ Algorithm.sha256.start ++ Base64.alphabet ++ ['='],
        Base64.isSpace c = false ∧ c ≠ ',' ∧ c ≠ ';' := free_of_all (by decide +kernel)
    exact all c (token_char digests script inside)

theorem token_head : (scriptHashToken digests script).head? = some '\'' := by
  rw [scriptHashToken,List.append_assoc,List.head?_append]
  rfl

theorem token_unnamed : lower (scriptHashToken digests script) ∉ scriptChain := by
  have quoted : ∀ name ∈ scriptChain, name.head? ≠ some '\'' := by decide
  intro among
  apply quoted _ among
  rw [lower,List.head?_map,token_head]
  rfl

/-- The token is no keyword. -/
theorem token_keyword {keyword : Text} (short : keyword.take 8 ≠ Algorithm.sha256.start) :
    lower (scriptHashToken digests script) ≠ keyword := by
  intro same
  apply short
  rw [← same,lower,← List.map_take,scriptHashToken,List.append_assoc,List.take_append_of_le_length (by decide)]
  decide

theorem unsafeInline_token (list : List Text) : unsafeInline (list ++ [scriptHashToken digests script]) = false := by
  simp [unsafeInline,hashSource?_token]

theorem standard_encodeChars (bytes : List UInt8) :
    (Base64.encodeChars bytes).map standardChar = Base64.encodeChars bytes := by
  have all : ∀ c ∈ '=' :: Base64.alphabet, (standardChar c == c) = true := List.all_eq_true.mp (by decide +kernel)
  refine (List.map_congr_left fun c inside => ?_).trans (List.map_id _)
  rcases Base64.mem_encodeChars inside with letter | fill
  · exact eq_of_beq (all c (List.mem_cons_of_mem _ letter))
  · exact eq_of_beq (all c (by simp [fill]))

theorem encodeChars_inj {one two : List UInt8} : Base64.encodeChars one = Base64.encodeChars two ↔ one = two := by
  refine ⟨fun same => ?_,congrArg _⟩
  have read := congrArg Base64.decodeChars same
  rw [Base64.decodeChars_encodeChars,Base64.decodeChars_encodeChars] at read
  exact Option.some.inj read

theorem matchesInline_token (list : List Text) (s : InlineScript σ) :
    matchesInline digests (list ++ [scriptHashToken digests script]) s = true ↔
      matchesInline digests list s = true ∨ Hashed digests script s := by
  have own : (nonceSource? (scriptHashToken digests script) == some s.nonce ||
      (hashSource? (scriptHashToken digests script)).any fun h =>
        h.2.map standardChar == Base64.encodeChars (digests.bytes h.1 s.source)) = true ↔ Hashed digests script s := by
    rw [nonceSource?_token,hashSource?_token,Option.any_some,standard_encodeChars]
    simp only [reduceCtorEq,Bool.or_eq_true,beq_iff_eq,false_or,encodeChars_inj]
    exact eq_comm
  rw [matchesInline,List.any_append,Bool.or_eq_true,List.any_cons,List.any_nil,Bool.or_false,own,matchesInline]

/-- Where `'unsafe-inline'` is in force, no source matches an inline script. -/
theorem matchesInline_of_inForce {list : List Text} (inForce : unsafeInline list = true) (s : InlineScript σ) :
    matchesInline digests list s = false := by
  rw [unsafeInline,Bool.and_eq_true,List.all_eq_true] at inForce
  refine List.any_eq_false.mpr fun e inside => ?_
  have neither := inForce.1 e inside
  rw [Bool.and_eq_true,Bool.and_eq_true,Option.isNone_iff_eq_none,Option.isNone_iff_eq_none] at neither
  simp [neither.1.1,neither.1.2]

/-- A list with the token lets through what its sources match, and the script with the hash. -/
theorem listAllowsInline_token (list : List Text) (s : InlineScript σ) :
    listAllowsInline digests (list ++ [scriptHashToken digests script]) s = true ↔
      matchesInline digests list s = true ∨ Hashed digests script s := by
  rw [listAllowsInline,unsafeInline_token,Bool.false_or,matchesInline_token]

theorem listAllowsExternal_token (covers : Text → υ → Bool) {list : List Text} {x : ExternalScript υ}
    (allowed : listAllowsExternal covers list x = true) :
    listAllowsExternal covers (list ++ [scriptHashToken digests script]) x = true := by
  have grows (f : Text → Bool) (found : list.any f = true) : (list ++ [scriptHashToken digests script]).any f = true := by
    rw [List.any_append,found,Bool.true_or]
  have dynamic : (list ++ [scriptHashToken digests script]).any isStrictDynamic = list.any isStrictDynamic := by
    have no : isStrictDynamic (scriptHashToken digests script) = false := by
      rw [isStrictDynamic,beq_eq_false_iff_ne]
      exact token_keyword digests script (by decide)
    rw [List.any_append,List.any_cons,no,List.any_nil,Bool.or_false,Bool.or_false]
  rw [listAllowsExternal,Bool.or_eq_true,Bool.or_eq_true] at allowed ⊢
  rcases allowed with (nonce | integrity) | url
  · exact .inl (.inl (grows _ nonce))
  · rw [Bool.and_eq_true,List.all_eq_true] at integrity
    refine .inl (.inr ?_)
    rw [Bool.and_eq_true,List.all_eq_true]
    exact ⟨integrity.1,fun m inside => grows _ (integrity.2 m inside)⟩
  · refine .inr ?_
    rw [dynamic]
    split at url
    · rename_i strict
      rwa [if_pos strict]
    · rename_i loose
      rw [if_neg loose]
      rw [listCovers,Bool.and_eq_true] at url ⊢
      refine ⟨?_,grows _ url.2⟩
      rw [List.map_append,bne_iff_ne]
      intro single
      have last := congrArg List.getLast? single
      rw [List.map_singleton,List.getLast?_concat] at last
      exact token_keyword digests script (by decide) (Option.some.inj last)

end Semantics

theorem allows_iff (headers : List Header) (allows : List Text → Bool) :
    Allows headers allows ↔ ∀ h ∈ headers, h.isCsp = true → ∀ (k : Nat) policy, (readPolicies h.text)[k]? = some policy →
      (scriptList policy).all allows = true := by
  simp only [Allows,policiesOf,List.mem_flatMap,List.mem_filter]
  constructor
  · intro all h among csp k policy read
    exact all policy ⟨h,⟨among,csp⟩,List.mem_of_getElem? read⟩
  · rintro all policy ⟨h,⟨among,csp⟩,inside⟩
    obtain ⟨k,read⟩ := List.mem_iff_getElem?.mp inside
    exact all h among csp k policy read

section Headers
variable {σ υ : Type} (digests : Digests σ) (covers : Text → υ → Bool) (script : σ) {headers : List Header}

/-- The headers as the rewriting with the token of the script leaves them. -/
def permitScript (headers : List Header) : List Header :=
  (rewriteCspHeaders headers fun csp => allowInlineScript csp (scriptHashToken digests script)).getD headers

/-- The list of a policy afterwards. -/
def listAfter (csp : Text) (k : Nat) (policy : List (List Text)) : Option (List Text) :=
  if grants csp (scriptHashToken digests script) k then (scriptList policy).map (· ++ [scriptHashToken digests script])
  else scriptList policy

theorem allows_permitScript (plain : ∀ h ∈ headers, h.isCsp = true → Plain h.text) (allows : List Text → Bool) :
    Allows (permitScript digests script headers) allows ↔
      ∀ h ∈ headers, h.isCsp = true → ∀ (k : Nat) policy, (readPolicies h.text)[k]? = some policy →
        (listAfter digests script h.text k policy).all allows = true := by
  simp only [Allows,permitScript,policiesOf_rewritten,List.mem_flatMap,List.mem_filter]
  have lists {h : Header} (among : h ∈ headers) (csp : h.isCsp = true) (k : Nat) :=
    scriptLists_rewritten (plain h among csp) (token_word digests script) (token_unnamed digests script) k
  constructor
  · intro all h among csp k policy read
    have same := lists among csp k
    rw [read,Option.map_some] at same
    obtain ⟨after,readAfter,list⟩ := Option.map_eq_some_iff.mp same
    have allowed := all after ⟨h,⟨among,csp⟩,List.mem_of_getElem? readAfter⟩
    rwa [list] at allowed
  · rintro all after ⟨h,⟨among,csp⟩,inside⟩
    obtain ⟨k,readAfter⟩ := List.mem_iff_getElem?.mp inside
    have same := lists among csp k
    rw [readAfter,Option.map_some] at same
    obtain ⟨policy,read,list⟩ := Option.map_eq_some_iff.mp same.symm
    have allowed := all h among csp k policy read
    rwa [listAfter,list] at allowed

/-- Every policy lets the script with the hash through or is given the token, and where one with
    `'unsafe-inline'` in force is given it, no other inline script was let through. -/
structure TokenFits (headers : List Header) : Prop where
  covered : ∀ h ∈ headers, h.isCsp = true → ∀ (k : Nat) policy, (readPolicies h.text)[k]? = some policy →
    grants h.text (scriptHashToken digests script) k = true ∨
      ∀ s, Hashed digests script s → ((scriptList policy).all fun list => listAllowsInline digests list s) = true
  kept : (∃ h ∈ headers, h.isCsp = true ∧ ∃ k policy list, (readPolicies h.text)[k]? = some policy ∧
      grants h.text (scriptHashToken digests script) k = true ∧ scriptList policy = some list ∧ unsafeInline list = true) →
    ∀ s, AllowsInline digests headers s → Hashed digests script s

/-- A policy that is given the token lets the script with the hash through. -/
theorem listAfter_hashed {csp : Text} {k : Nat} (policy : List (List Text))
    (granted : grants csp (scriptHashToken digests script) k = true) {s : InlineScript σ} (hashed : Hashed digests script s) :
    ((listAfter digests script csp k policy).all fun list => listAllowsInline digests list s) = true := by
  rw [listAfter,granted,if_pos rfl]
  cases scriptList policy with
  | none => rfl
  | some list => exact (listAllowsInline_token digests script list s).mpr (.inr hashed)

/-- External scripts pass every policy as before. -/
theorem listAfter_external {csp : Text} {k : Nat} {policy : List (List Text)} {x : ExternalScript υ}
    (allowed : ((scriptList policy).all fun list => listAllowsExternal covers list x) = true) :
    ((listAfter digests script csp k policy).all fun list => listAllowsExternal covers list x) = true := by
  rw [listAfter]
  split
  · cases governs : scriptList policy with
    | none => rfl
    | some list =>
      rw [governs] at allowed
      exact listAllowsExternal_token digests script covers allowed
  · exact allowed

/-- No policy lets an inline script through that it did not before, but for the hash. -/
theorem listAfter_others {csp : Text} {k : Nat} {policy : List (List Text)} {s : InlineScript σ}
    (allowed : ((listAfter digests script csp k policy).all fun list => listAllowsInline digests list s) = true)
    (other : ¬ Hashed digests script s) : ((scriptList policy).all fun list => listAllowsInline digests list s) = true := by
  rw [listAfter] at allowed
  split at allowed
  · cases governs : scriptList policy with
    | none => rfl
    | some list =>
      rw [governs] at allowed
      have matched := ((listAllowsInline_token digests script list s).mp allowed).resolve_right other
      rw [Option.all_some,listAllowsInline,matched,Bool.or_true]
  · exact allowed

/-- An inline script passes a policy as before, unless it passed by `'unsafe-inline'`. -/
theorem listAfter_inline {csp : Text} {k : Nat} {policy : List (List Text)} {s : InlineScript σ}
    (allowed : ((scriptList policy).all fun list => listAllowsInline digests list s) = true)
    (kept : ∀ list, grants csp (scriptHashToken digests script) k = true → scriptList policy = some list →
      unsafeInline list = true → Hashed digests script s) :
    ((listAfter digests script csp k policy).all fun list => listAllowsInline digests list s) = true := by
  rw [listAfter]
  split
  · rename_i granted
    cases governs : scriptList policy with
    | none => rfl
    | some list =>
      refine (listAllowsInline_token digests script list s).mpr ?_
      cases inForce : unsafeInline list with
      | true => exact .inr (kept list granted governs inForce)
      | false =>
        rw [governs,Option.all_some,listAllowsInline,inForce,Bool.false_or] at allowed
        exact .inl allowed
  · exact allowed

theorem fits_of_permitted (plain : ∀ h ∈ headers, h.isCsp = true → Plain h.text)
    (permitted : Permitted digests covers script headers (permitScript digests script headers)) :
    TokenFits digests script headers := by
  have after (allows : List Text → Bool) := allows_permitScript digests script plain allows
  refine ⟨fun h among csp k policy read => ?_,?_⟩
  · cases granted : grants h.text (scriptHashToken digests script) k with
    | true => exact .inl rfl
    | false =>
      refine .inr fun s hashed => ?_
      have allowed := (after _).mp (permitted.hashed s hashed) h among csp k policy read
      rwa [listAfter,granted,if_neg Bool.false_ne_true] at allowed
  · rintro ⟨h,among,csp,k,policy,list,read,granted,own,inForce⟩ s allowed
    have still := (after _).mp (permitted.inline s allowed) h among csp k policy read
    rw [listAfter,granted,if_pos rfl,own,Option.map_some,Option.all_some,listAllowsInline_token] at still
    rcases still with matched | hashed
    · rw [matchesInline_of_inForce digests inForce] at matched
      cases matched
    · exact hashed

theorem permitted_of_fits (plain : ∀ h ∈ headers, h.isCsp = true → Plain h.text) (fits : TokenFits digests script headers) :
    Permitted digests covers script headers (permitScript digests script headers) := by
  have before (allows : List Text → Bool) := allows_iff headers allows
  have after (allows : List Text → Bool) := allows_permitScript digests script plain allows
  refine ⟨fun s hashed => ?_,fun s allowed => ?_,fun x allowed => ?_,fun s allowed other => ?_⟩
  · refine (after _).mpr fun h among csp k policy read => ?_
    cases granted : grants h.text (scriptHashToken digests script) k with
    | true => exact listAfter_hashed digests script policy granted hashed
    | false =>
      have through := (fits.covered h among csp k policy read).resolve_left (by simp [granted])
      rw [listAfter,granted,if_neg Bool.false_ne_true]
      exact through s hashed
  · refine (after _).mpr fun h among csp k policy read => ?_
    refine listAfter_inline digests script ((before _).mp allowed h among csp k policy read) ?_
    intro list granted governs inForce
    exact fits.kept ⟨h,among,csp,k,policy,list,read,granted,governs,inForce⟩ s allowed
  · refine (after _).mpr fun h among csp k policy read => ?_
    exact listAfter_external digests covers script ((before _).mp allowed h among csp k policy read)
  · refine (before _).mpr fun h among csp k policy read => ?_
    exact listAfter_others digests script ((after _).mp allowed h among csp k policy read) other

/-- The permission does what it is for just when the token fits. -/
theorem permitted_iff (plain : ∀ h ∈ headers, h.isCsp = true → Plain h.text) :
    Permitted digests covers script headers (permitScript digests script headers) ↔ TokenFits digests script headers :=
  ⟨fits_of_permitted digests covers script plain,permitted_of_fits digests covers script plain⟩

end Headers

/-- Digests that tell small numbers apart. -/
def numbers : Digests Nat where
  bytes a n := List.replicate a.size (UInt8.ofNat n)
  length _ _ := List.length_replicate

def header (value : String) : Header := ⟨"Content-Security-Policy".toList,some value.toList⟩

theorem permitted_self : Permitted numbers (fun _ _ : Text => true) 7 [header "img-src *; default-src 'self'"]
    (permitScript numbers 7 [header "img-src *; default-src 'self'"]) := by
  have plain : ∀ h ∈ [header "img-src *; default-src 'self'"], h.isCsp = true → Plain h.text := by decide +kernel
  have read : readPolicies (header "img-src *; default-src 'self'").text
      = [[["img-src".toList,['*']],["default-src".toList,"'self'".toList]]] := by decide +kernel
  have granted : grants (header "img-src *; default-src 'self'").text (scriptHashToken numbers 7) 0 = true := by
    decide +kernel
  have governs : scriptList [["img-src".toList,['*']],["default-src".toList,"'self'".toList]] = some ["'self'".toList] := by
    decide +kernel
  refine (permitted_iff numbers _ 7 plain).mpr ⟨?_,?_⟩
  · intro h among csp k policy found
    obtain rfl := List.mem_singleton.mp among
    rw [read] at found
    cases k with
    | zero => exact .inl granted
    | succ k => cases found
  · rintro ⟨h,among,-,k,policy,list,found,-,own,inForce⟩
    obtain rfl := List.mem_singleton.mp among
    rw [read] at found
    cases k with
    | succ k => cases found
    | zero =>
      obtain rfl := Option.some.inj found
      obtain rfl := Option.some.inj (governs.symm.trans own)
      exact absurd inForce (by decide +kernel)

/-- `'strict-dynamic'` has already switched `'unsafe-inline'` off, and the code leaves the list
    as it is because `'unsafe-inline'` is in it. -/
theorem strict_dynamic_refused :
    permitScript numbers 7 [header "script-src 'unsafe-inline' 'strict-dynamic'"]
        = [header "script-src 'unsafe-inline' 'strict-dynamic'"] ∧
      ¬ Permitted numbers (fun _ _ : Text => true) 7 [header "script-src 'unsafe-inline' 'strict-dynamic'"]
        (permitScript numbers 7 [header "script-src 'unsafe-inline' 'strict-dynamic'"]) := by
  have kept : permitScript numbers 7 [header "script-src 'unsafe-inline' 'strict-dynamic'"]
      = [header "script-src 'unsafe-inline' 'strict-dynamic'"] := by decide +kernel
  refine ⟨kept,fun permitted => ?_⟩
  have allowed := permitted.hashed ⟨[],7⟩ rfl
  rw [kept] at allowed
  have refused : ¬ Allows [header "script-src 'unsafe-inline' 'strict-dynamic'"]
      fun list => listAllowsInline numbers list ⟨[],7⟩ := by decide +kernel
  exact refused allowed

end FFWebHid.InlineScripts
