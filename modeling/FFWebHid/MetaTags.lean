import FFWebHid.CspRewrites
import FFWebHid.Utf8

/-!
Policies in `meta` tags: the tags that the patterns of `handleMetaCsp` find in a page and what
becomes of them, and the attributes that the browser reads of a tag.
-/
namespace FFWebHid.MetaTags
open FFWebHid.CspText FFWebHid.CspRewrites FFWebHid.InlineScripts
open FFWebHid.Policies (isSpace isQuote isQuote_iff)

/-- A text begins with a word, in any case. -/
def begins (word t : Text) : Bool := lower (t.take word.length) == word

/-- `/http-equiv\s*=\s*["']?\s*content-security-policy/i` at the beginning of a text. -/
def httpEquivAt (t : Text) : Bool :=
  begins "http-equiv".toList t &&
    match (t.drop "http-equiv".length).dropWhile isSpace with
    | '=' :: valued =>
      let value := valued.dropWhile isSpace
      let opened := if value.head?.any isQuote then value.tail else value
      begins "content-security-policy".toList (opened.dropWhile isSpace)
    | _ => false

/-- A match of `/\bcontent\s*=\s*("([^"]*)"|'([^']*)'|([^\s>]+))/i`, with its quote if it has one. -/
structure ContentMatch where
  text : Text
  quote : Option Char
  csp : Text
  deriving DecidableEq, Repr

def contentAt? (t : Text) : Option ContentMatch :=
  if begins "content".toList t then
    let named := t.drop "content".length
    match named.dropWhile isSpace with
    | '=' :: valued =>
      let front := t.take "content".length ++ named.takeWhile isSpace ++ '=' :: valued.takeWhile isSpace
      match valued.dropWhile isSpace with
      | [] => none
      | q :: rest =>
        if isQuote q = true ∧ q ∈ rest then
          some ⟨front ++ q :: (rest.takeWhile (· != q) ++ [q]),some q,rest.takeWhile (· != q)⟩
        else
          let word := (q :: rest).takeWhile fun c => !isSpace c && c != '>'
          if word = [] then none else some ⟨front ++ word,none,word⟩
    | _ => none
  else none

def isWordChar (c : Char) : Bool := c.isAlphanum || c == '_'

/-- The first match that does not begin within a word. -/
def contentMatch? : Bool → Text → Option ContentMatch
  | _,[] => none
  | word,c :: t => (if word then none else contentAt? (c :: t)).or (contentMatch? (isWordChar c) t)

/-- What the settings and the hash of the script come to. -/
structure Lookups where
  mode : String
  scriptHashToken : Option Text

/-- The field of `parseCspForWorkerSpawn` that the rewriting uses. -/
def hasTrustedTypesRequire (csp : Text) : Bool :=
  (csp.splitOn ',').any fun policy =>
    ((parseDirectives policy).lookup "require-trusted-types-for".toList).any fun list => includes list "'script'".toList

/-- The new value of a policy. With the mode `blob`, `needsBlobFallback` is true of every one. -/
def rewriteValue (l : Lookups) (csp : Text) : Option Text :=
  let blob := if l.mode = "blob" then rewriteCspValue csp (hasTrustedTypesRequire csp) else (csp,false)
  let value := if blob.2 then blob.1 else csp
  (l.scriptHashToken.bind (allowInlineScript value)).or (if blob.2 then some value else none)

/-- What is in front of the first occurrence of a text, and what is behind it. -/
def splitFirst? (part : Text) : Text → Option (Text × Text)
  | [] => if part = [] then some ([],[]) else none
  | c :: t =>
    if part <+: c :: t then some ([],(c :: t).drop part.length)
    else (splitFirst? part t).map fun split => (c :: split.1,split.2)

/-- The patterns with `$` in the second argument of `replace`. -/
def substitution (matched before after : Text) : Text → Text
  | [] => []
  | [c] => [c]
  | c :: d :: t =>
    if c = '$' then
      if d = '$' then '$' :: substitution matched before after t
      else if d = '&' then matched ++ substitution matched before after t
      else if d.toNat = 0x60 then before ++ substitution matched before after t
      else if d = '\'' then after ++ substitution matched before after t
      else c :: substitution matched before after (d :: t)
    else c :: substitution matched before after (d :: t)

/-- `replace` of a string. -/
def replaceFirst (t matched replacement : Text) : Text :=
  match splitFirst? matched t with
  | none => t
  | some (before,after) => before ++ (substitution matched before after replacement ++ after)

def replacement (m : ContentMatch) (value : Text) : Text :=
  "content=".toList ++ (m.quote.getD '"' :: (value ++ [m.quote.getD '"']))

/-- What is found in a tag that is changed, and its new policy. -/
def edit? (l : Lookups) (tag : Text) : Option (ContentMatch × Text) :=
  if tag.tails.any httpEquivAt then
    (contentMatch? false tag).bind fun m => (rewriteValue l m.csp).map fun value => (m,value)
  else none

def rewriteTag (l : Lookups) (tag : Text) : Option Text :=
  (edit? l tag).map fun edit => replaceFirst tag edit.1.text (replacement edit.1 edit.2)

inductive Piece where
  | text (c : Char)
  | tag (t : Text)
  deriving DecidableEq, Repr

/-- `/<meta\s[^>]*>/gi` at the beginning of a text. -/
def tagAt (t : Text) : Bool :=
  begins "<meta".toList t && (t.drop "<meta".length).head?.any isSpace && t.contains '>'

/-- The matches in a text and what is between them; of a tag that has begun, the text so far. -/
def pieces : Option Text → Text → List Piece
  | none,[] => []
  | some tag,[] => tag.map .text
  | none,c :: t => if tagAt (c :: t) then pieces (some [c]) t else .text c :: pieces none t
  | some tag,c :: t => if c = '>' then .tag (tag ++ [c]) :: pieces none t else pieces (some (tag ++ [c])) t

def Piece.original : Piece → Text
  | .text c => [c]
  | .tag t => t

def Piece.rewritten (l : Lookups) : Piece → Text
  | .text c => [c]
  | .tag t => (rewriteTag l t).getD t

def Piece.changes (l : Lookups) : Piece → Bool
  | .text _ => false
  | .tag t => (edit? l t).isSome

/-! ### The browser -/

/-- Where the reading of a tag is: between attributes, in or behind the name of one, in front of
    its value or in it, or behind the tag. -/
inductive Place where
  | between
  | name (n : Text)
  | named (n : Text)
  | equals (n : Text)
  | value (n : Text) (quote : Option Char) (v : Text)
  | closed
  deriving DecidableEq, Repr

structure Reading where
  attributes : List (Text × Text)
  place : Place
  deriving DecidableEq, Repr

def Reading.finish (r : Reading) (n v : Text) (place : Place) : Reading := ⟨r.attributes ++ [(n,v)],place⟩

def Reading.step (r : Reading) (c : Char) : Reading :=
  match r.place with
  | .between =>
    if Base64.isSpace c || c == '/' then r
    else if c = '>' then { r with place := .closed }
    else { r with place := .name [c.toLower] }
  | .name n =>
    if Base64.isSpace c then { r with place := .named n }
    else if c = '/' then r.finish n [] .between
    else if c = '>' then r.finish n [] .closed
    else if c = '=' then { r with place := .equals n }
    else { r with place := .name (n ++ [c.toLower]) }
  | .named n =>
    if Base64.isSpace c then r
    else if c = '/' then r.finish n [] .between
    else if c = '>' then r.finish n [] .closed
    else if c = '=' then { r with place := .equals n }
    else r.finish n [] (.name [c.toLower])
  | .equals n =>
    if Base64.isSpace c then r
    else if c = '>' then r.finish n [] .closed
    else if isQuote c then { r with place := .value n (some c) [] }
    else { r with place := .value n none [c] }
  | .value n (some q) v => if c = q then r.finish n v .between else { r with place := .value n (some q) (v ++ [c]) }
  | .value n none v =>
    if Base64.isSpace c then r.finish n v .between
    else if c = '>' then r.finish n v .closed
    else { r with place := .value n none (v ++ [c]) }
  | .closed => r

def Reading.run (r : Reading) (t : Text) : Reading := t.foldl Reading.step r

/-- What follows the name of a tag. -/
def readTag (tag : Text) : Reading := Reading.run ⟨[],.between⟩ (tag.drop "<meta".length)

/-- A whole tag with a policy; the first attribute of a name counts. -/
structure IsPolicy (tag : Text) : Prop where
  named : begins "<meta".toList tag = true ∧ (tag.drop "<meta".length).head?.any Base64.isSpace = true
  whole : (readTag tag).place = .closed ∧ (readTag tag.dropLast).place ≠ .closed
  policy : ((readTag tag).attributes.lookup "http-equiv".toList).map lower = some "content-security-policy".toList

/-- The first `content` of a tag has its value next. -/
structure BeforeContent (front : Text) : Prop where
  place : (readTag front).place = .equals "content".toList
  first : (readTag front).attributes.lookup "content".toList = none

/-- A value as it is written, in front of what follows. -/
inductive IsValue : Text → Text → Text → Prop where
  | quoted {q : Char} {v back : Text} (quote : isQuote q = true) (free : q ∉ v) : IsValue (q :: (v ++ [q])) v back
  | bare {c : Char} {v back : Text} (plain : isQuote c = false)
      (word : ∀ d ∈ c :: v, Base64.isSpace d = false ∧ d ≠ '>')
      (ended : back.head?.any (fun d => Base64.isSpace d || d == '>') = true) : IsValue (c :: v) (c :: v) back

/-- A tag with another policy, where the value of its `content` was. -/
structure Rewrites (l : Lookups) (tag after : Text) : Prop where
  policy : IsPolicy tag
  value : ∃ front written written' back v v',tag = front ++ (written ++ back) ∧ after = front ++ (written' ++ back) ∧
    BeforeContent front ∧ IsValue written v back ∧ IsValue written' v' back ∧ rewriteValue l v = some v'

/-- `$$`, `$&`, and `$` before a quote of either slant. -/
def hasPattern : Text → Bool
  | c :: d :: t => (c == '$' && (d == '$' || d == '&' || d.toNat == 0x60 || d == '\'')) || hasPattern (d :: t)
  | _ => false

/-- The text that is replaced is the `content` of a policy, written like the replacement, and the
    new policy has no quote of its own and no pattern in it. -/
structure Found (tag : Text) (m : ContentMatch) (value : Text) : Prop where
  policy : IsPolicy tag
  content : ∃ front back written,splitFirst? m.text tag = some (front,back) ∧ m.text = "content=".toList ++ written ∧
    BeforeContent (front ++ "content=".toList) ∧ IsValue written m.csp back
  unquoted : m.quote.getD '"' ∉ value
  literal : hasPattern (replacement m value) = false

theorem substitution_literal (matched before after : Text) {t : Text} (literal : hasPattern t = false) :
    substitution matched before after t = t := by
  induction t with
  | nil => rfl
  | cons c t ih =>
    cases t with
    | nil => rfl
    | cons d t =>
      rw [hasPattern,Bool.or_eq_false_iff] at literal
      rw [substitution]
      have same := ih literal.2
      have none := literal.1
      split_ifs with dollar one two three four
      · simp [dollar,one] at none
      · simp [dollar,two] at none
      · simp [dollar,three] at none
      · simp [dollar,four] at none
      · rw [same]
      · rw [same]

theorem splitFirst?_some {part t before after : Text} (found : splitFirst? part t = some (before,after)) :
    t = before ++ (part ++ after) := by
  induction t generalizing before with
  | nil =>
    rw [splitFirst?] at found
    split_ifs at found with empty
    obtain ⟨rfl,rfl⟩ := Prod.mk.inj (Option.some.inj found)
    rw [empty]
    rfl
  | cons c t ih =>
    rw [splitFirst?] at found
    split_ifs at found with here
    · obtain ⟨rfl,rfl⟩ := Prod.mk.inj (Option.some.inj found)
      exact (List.prefix_iff_eq_append.mp here).symm
    · obtain ⟨⟨before',after'⟩,later,same⟩ := Option.map_eq_some_iff.mp found
      obtain ⟨rfl,rfl⟩ := Prod.mk.inj same
      rw [ih later]
      rfl

theorem contentAt?_quote {t : Text} {m : ContentMatch} (found : contentAt? t = some m) : isQuote (m.quote.getD '"') = true := by
  have double : isQuote '"' = true := by decide
  rw [contentAt?] at found
  split at found
  · dsimp only at found
    split at found
    · split at found
      · cases found
      · split_ifs at found with quoted empty
        · obtain rfl := Option.some.inj found
          exact quoted.1
        · obtain rfl := Option.some.inj found
          exact double
    · cases found
  · cases found

theorem contentMatch?_quote {word : Bool} {t : Text} {m : ContentMatch} (found : contentMatch? word t = some m) :
    isQuote (m.quote.getD '"') = true := by
  induction t generalizing word with
  | nil => cases found
  | cons c t ih =>
    rw [contentMatch?] at found
    rcases Option.or_eq_some_iff.mp found with here | ⟨-,later⟩
    · split at here
      · cases here
      · exact contentAt?_quote here
    · exact ih later

theorem edit?_some {l : Lookups} {tag value : Text} {m : ContentMatch} (edited : edit? l tag = some (m,value)) :
    isQuote (m.quote.getD '"') = true ∧ rewriteValue l m.csp = some value := by
  rw [edit?] at edited
  split at edited
  · obtain ⟨m',found,valued⟩ := Option.bind_eq_some_iff.mp edited
    obtain ⟨value',rewritten,same⟩ := Option.map_eq_some_iff.mp valued
    obtain ⟨rfl,rfl⟩ := Prod.mk.inj same
    exact ⟨contentMatch?_quote found,rewritten⟩
  · cases edited

theorem rewrites_of_found {l : Lookups} {tag value : Text} {m : ContentMatch} (edited : edit? l tag = some (m,value))
    (found : Found tag m value) : ∃ after,rewriteTag l tag = some after ∧ Rewrites l tag after := by
  obtain ⟨front,back,written,split,text,before,isValue⟩ := found.content
  obtain ⟨quote,rewritten⟩ := edit?_some edited
  have whole := splitFirst?_some split
  have after : rewriteTag l tag = some (front ++ (replacement m value ++ back)) := by
    rw [rewriteTag,edited,Option.map_some,replaceFirst,split]
    dsimp only
    rw [substitution_literal _ _ _ found.literal]
  have joined (x y : Text) : front ++ ((x ++ y) ++ back) = (front ++ x) ++ (y ++ back) := by
    simp only [List.append_assoc]
  refine ⟨_,after,⟨found.policy,front ++ "content=".toList,written,m.quote.getD '"' :: (value ++ [m.quote.getD '"']),
    back,m.csp,value,?_,joined _ _,before,isValue,.quoted quote found.unquoted,rewritten⟩⟩
  rw [whole,text]
  exact joined _ _

theorem pieces_original (o : Option Text) (t : Text) : (pieces o t).flatMap Piece.original = o.getD [] ++ t := by
  induction t generalizing o with
  | nil =>
    cases o with
    | none => rfl
    | some tag => simp [pieces,List.flatMap_map,Piece.original]
  | cons c t ih =>
    cases o with
    | none =>
      rw [pieces]
      split
      · exact ih (some [c])
      · exact congrArg (c :: ·) (ih none)
    | some tag =>
      rw [pieces]
      split
      · rw [List.flatMap_cons,ih none]
        exact List.append_assoc tag [c] t
      · rw [ih]
        exact List.append_assoc tag [c] t

theorem Reading.run_append (r : Reading) (x y : Text) : r.run (x ++ y) = (r.run x).run y := List.foldl_append

theorem readTag_append {front : Text} (before : (readTag front).place ≠ .between) (t : Text) :
    readTag (front ++ t) = (readTag front).run t := by
  have long : "<meta".length ≤ front.length := by
    by_contra short
    rw [readTag,List.drop_eq_nil_of_le (by omega)] at before
    exact before rfl
  rw [readTag,List.drop_append_of_le_length long,Reading.run_append]
  rfl

/-- A reading goes on alike, whatever attributes it has. -/
theorem Reading.run_attributes (attributes : List (Text × Text)) (place : Place) (t : Text) :
    Reading.run ⟨attributes,place⟩ t
      = ⟨attributes ++ (Reading.run ⟨[],place⟩ t).attributes,(Reading.run ⟨[],place⟩ t).place⟩ := by
  have step (r : Reading) (c : Char) : Reading.step ⟨attributes ++ r.attributes,r.place⟩ c
      = ⟨attributes ++ (r.step c).attributes,(r.step c).place⟩ := by
    rcases r with ⟨own,place⟩
    cases place with
    | value n quote v =>
      cases quote <;> simp only [Reading.step,Reading.finish] <;> split_ifs <;> simp
    | _ => simp only [Reading.step,Reading.finish] <;> split_ifs <;> simp
  have all (r : Reading) : Reading.run ⟨attributes ++ r.attributes,r.place⟩ t
      = ⟨attributes ++ (r.run t).attributes,(r.run t).place⟩ := by
    induction t generalizing r with
    | nil => rfl
    | cons c t ih =>
      rw [Reading.run,List.foldl_cons,step]
      exact ih (r.step c)
  have whole := all ⟨[],place⟩
  rwa [List.append_nil] at whole

theorem run_quoted (attributes : List (Text × Text)) (n : Text) {q : Char} {u v : Text} (free : q ∉ v) (back : Text) :
    Reading.run ⟨attributes,.value n (some q) u⟩ (v ++ q :: back)
      = Reading.run ⟨attributes ++ [(n,u ++ v)],.between⟩ back := by
  induction v generalizing u with
  | nil =>
    rw [List.nil_append,Reading.run,List.foldl_cons,Reading.step,List.append_nil]
    dsimp only
    rw [if_pos rfl]
    rfl
  | cons c v ih =>
    rw [List.mem_cons,not_or] at free
    have later := ih free.2 (u := u ++ [c])
    rw [List.append_assoc] at later
    rw [List.cons_append,Reading.run,List.foldl_cons,Reading.step]
    dsimp only
    rw [if_neg (Ne.symm free.1)]
    exact later

theorem run_bare (attributes : List (Text × Text)) (n : Text) {u v : Text}
    (word : ∀ d ∈ v, Base64.isSpace d = false ∧ d ≠ '>') (back : Text) :
    Reading.run ⟨attributes,.value n none u⟩ (v ++ back) = Reading.run ⟨attributes,.value n none (u ++ v)⟩ back := by
  induction v generalizing u with
  | nil => rw [List.append_nil,List.nil_append]
  | cons c v ih =>
    obtain ⟨space,less⟩ := word c List.mem_cons_self
    have later := ih (fun d inside => word d (List.mem_cons_of_mem c inside)) (u := u ++ [c])
    rw [List.append_assoc] at later
    rw [List.cons_append,Reading.run,List.foldl_cons,Reading.step]
    dsimp only
    rw [if_neg (by simp [space]),if_neg less]
    exact later

/-- A value is read as it is written. -/
theorem IsValue.run {written v back : Text} (value : IsValue written v back) (attributes : List (Text × Text)) (n : Text) :
    Reading.run ⟨attributes,.equals n⟩ (written ++ back) = Reading.run ⟨attributes ++ [(n,v)],.between⟩ back := by
  cases value with
  | quoted quote free =>
    rename_i q
    have space : Base64.isSpace q = false ∧ q ≠ '>' := by
      rcases isQuote_iff.mp quote with rfl | rfl <;> decide
    rw [List.cons_append,Reading.run,List.foldl_cons,Reading.step]
    dsimp only
    rw [if_neg (by simp [space.1]),if_neg space.2,if_pos quote,List.append_assoc]
    exact run_quoted attributes n free back
  | bare plain word ended =>
    rename_i c v
    obtain ⟨space,less⟩ := word c List.mem_cons_self
    rw [List.cons_append,Reading.run,List.foldl_cons,Reading.step]
    dsimp only
    rw [if_neg (by simp [space]),if_neg less,if_neg (by simp [plain])]
    refine (run_bare attributes n (fun d inside => word d (List.mem_cons_of_mem c inside)) back).trans ?_
    cases back with
    | nil => cases ended
    | cons d back =>
      rw [Reading.run,List.foldl_cons,Reading.run,List.foldl_cons,Reading.step,Reading.step]
      dsimp only
      rw [List.head?_cons,Option.any_some,Bool.or_eq_true,beq_iff_eq] at ended
      by_cases white : Base64.isSpace d = true
      · rw [if_pos white,if_pos (by simp [white])]
        rfl
      · rcases ended with white' | rfl
        · exact absurd white' white
        · rfl

/-- A tag that is rewritten has the attributes that it had, but the policy. -/
theorem rewrites_attributes {l : Lookups} {tag after : Text} (rewrites : Rewrites l tag after) :
    ∃ before v v' others,(readTag tag).attributes = before ++ ("content".toList,v) :: others ∧
      readTag after = ⟨before ++ ("content".toList,v') :: others,.closed⟩ ∧
      before.lookup "content".toList = none ∧ rewriteValue l v = some v' := by
  obtain ⟨front,written,written',back,v,v',rfl,rfl,before,value,value',rewritten⟩ := rewrites.value
  have outside : (readTag front).place ≠ .between := by
    rw [before.place]
    exact Place.noConfusion
  have reads {written v : Text} (value : IsValue written v back) : readTag (front ++ (written ++ back))
      = ⟨(readTag front).attributes ++ ("content".toList,v) :: (Reading.run ⟨[],.between⟩ back).attributes,
        (Reading.run ⟨[],.between⟩ back).place⟩ := by
    have start : readTag front = ⟨(readTag front).attributes,.equals "content".toList⟩ := by rw [← before.place]
    rw [readTag_append outside,start,value.run,Reading.run_attributes,List.append_assoc]
    rfl
  have closed := rewrites.policy.whole.1
  rw [reads value] at closed
  exact ⟨_,v,v',_,by rw [reads value],by rw [reads value',closed],before.first,rewritten⟩

/-- It also ends like it did. -/
theorem rewrites_last {l : Lookups} {tag after : Text} (rewrites : Rewrites l tag after) :
    ∃ c front front',tag = front ++ [c] ∧ after = front' ++ [c] := by
  obtain ⟨front,written,written',back,v,v',rfl,rfl,before,value,-,-⟩ := rewrites.value
  rcases List.eq_nil_or_concat back with rfl | ⟨init,c,rfl⟩
  · have closed := rewrites.policy.whole.1
    have start : readTag front = ⟨(readTag front).attributes,.equals "content".toList⟩ := by rw [← before.place]
    rw [readTag_append (by rw [before.place]; exact Place.noConfusion),start,value.run] at closed
    exact Place.noConfusion closed
  · exact ⟨c,front ++ (written ++ init),front ++ (written' ++ init),by simp,by simp⟩

end FFWebHid.MetaTags
