import Mathlib.Data.List.Infix
import Mathlib.Data.List.TakeWhile
import FFWebHid.Base64
import FFWebHid.Policies
import FFWebHid.Separators

/-!
Content-Security-Policy values as text: how `csp.js` takes one apart, as one policy, and
how the browser reads it, as policies between commas.
-/
namespace FFWebHid.CspText
open FFWebHid.Separators
open FFWebHid.Policies (isSpace trim)

abbrev Text := List Char

/-- `toLowerCase`, for characters of ASCII. -/
def lower (t : Text) : Text := t.map Char.toLower

/-- `includes` of a string. -/
def includes (t part : Text) : Bool := decide (part <:+: t)

/-- `split(/\s+/)`: a text that begins or ends with white space has an empty piece there. -/
def splitSpaces : Text → List Text
  | [] => [[]]
  | c :: t =>
    if isSpace c then
      match t with
      | d :: _ => if isSpace d then splitSpaces t else [] :: splitSpaces t
      | [] => [] :: splitSpaces t
    else (splitSpaces t).modifyHead (c :: ·)

/-- `trim().split(/\s+/)`: the name of a directive and its tokens. -/
def parts (segment : Text) : List Text := splitSpaces (trim segment)

/-- `CSP_DIRECTIVE_NAMES`. -/
def directiveNames : List Text :=
  ["default-src","script-src","script-src-elem","script-src-attr","style-src","style-src-elem","style-src-attr",
    "img-src","connect-src","worker-src","child-src","frame-src","font-src","media-src","object-src","manifest-src",
    "prefetch-src","navigate-to","form-action","base-uri","sandbox","frame-ancestors","plugin-types","report-uri",
    "report-to","upgrade-insecure-requests","block-all-mixed-content","require-sri-for","trusted-types",
    "require-trusted-types-for"].map String.toList

/-- A name of a directive stands among the tokens of another. -/
def hasUnseparatedDirective (csp : Text) : Bool :=
  (csp.splitOn ';').any fun raw => ((parts raw).drop 1).any fun token => directiveNames.contains (lower token)

/-- `parts[0]?.toLowerCase()`. -/
def firstWord (segment : Text) : Option Text := (parts segment).head?.map lower

/-- The characters of serialized policies: white space, and what is printable in ASCII. -/
def isPlain (c : Char) : Bool := Base64.isSpace c || (0x21 ≤ c.toNat && c.toNat ≤ 0x7E)

def Plain (t : Text) : Prop := ∀ c ∈ t, isPlain c = true

instance (t : Text) : Decidable (Plain t) := List.decidableBAll (fun c => isPlain c = true) t

/-- The words of a directive; one that is not ASCII is skipped like an empty one. -/
def directiveWords (directive : Text) : List Text :=
  if directive.all fun c => c.toNat < 0x80 then wordsBy Base64.isSpace directive else []

/-- The words of the directives that begin in a segment between semicolons, and go on in it. -/
def row (segment : Text) : List (List Text) := (segment.splitOn ',').map directiveWords

def rows (value : Text) : List (List (List Text)) :=
  (value.splitOn ';').map row

/-- The policies of a value, each with the words of its directives. -/
def readPolicies (value : Text) : List (List (List Text)) :=
  (value.splitOn ',').map fun policy => (policy.splitOn ';').map directiveWords

def isNamed (name : Text) (directive : List Text) : Bool := directive.head?.map lower == some name

/-- The list of the first directive of a name; later ones do not count. -/
def directive? (policy : List (List Text)) (name : Text) : Option (List Text) :=
  (policy.find? (isNamed name)).map List.tail

/-- The list of the first name of a fallback chain that the policy has. -/
def governing (policy : List (List Text)) (chain : List Text) : Option (List Text) := chain.findSome? (directive? policy)

/-- Where that directive stands. -/
def governingPlace (policy : List (List Text)) (chain : List Text) : Option Nat :=
  chain.findSome? fun name => policy.findIdx? (isNamed name)

theorem readPolicies_eq (value : Text) : readPolicies value = regroup (rows value) := by
  have policies : readPolicies value = ((value.splitOn ',').map (List.splitOn ';')).map (List.map directiveWords) := by
    rw [List.map_map]
    rfl
  have segments : rows value = ((value.splitOn ';').map (List.splitOn ',')).map (List.map directiveWords) := by
    rw [List.map_map]
    rfl
  rw [policies,segments,splitOn_map_splitOn (by decide),regroup_map]

theorem rows_full (value : Text) : ∀ row ∈ rows value, row ≠ [] := by
  intro row among
  obtain ⟨segment,-,rfl⟩ := List.mem_map.mp among
  simp [CspText.row]

theorem find?_modify {f : List Text → List Text} {p : List Text → Bool} (same : ∀ d, p (f d) = p d)
    (policy : List (List Text)) (j : Nat) :
    (policy.modify j f).find? p = if policy.findIdx? p = some j then (policy.find? p).map f else policy.find? p := by
  induction policy generalizing j with
  | nil => cases j <;> rfl
  | cons d policy ih =>
    cases j with
    | zero =>
      rw [List.modify_zero_cons,List.find?_cons,List.find?_cons,same,List.findIdx?_cons]
      cases found : p d with
      | true => rfl
      | false =>
        rw [if_neg]
        cases policy.findIdx? p <;> simp
    | succ j =>
      rw [List.modify_succ_cons,List.find?_cons,List.find?_cons,List.findIdx?_cons]
      cases found : p d with
      | true => rfl
      | false =>
        have place : (policy.findIdx? p).map (· + 1) = some (j + 1) ↔ policy.findIdx? p = some j := by
          cases policy.findIdx? p <;> simp
        simp only [ih j,Bool.false_eq_true,if_false,place]

/-- A token at the end of a directive changes no name, and one list when the directive has a name that counts. -/
theorem directive?_modify {name token : Text} (other : lower token ≠ name) (policy : List (List Text)) (j : Nat) :
    directive? (policy.modify j (· ++ [token])) name
      = if policy.findIdx? (isNamed name) = some j then (directive? policy name).map (· ++ [token])
        else directive? policy name := by
  have same (d : List Text) : isNamed name (d ++ [token]) = isNamed name d := by
    cases d with
    | nil => simp [isNamed,other]
    | cons w d => rfl
  rw [directive?,find?_modify same,directive?]
  split
  · rename_i found
    cases first : policy.find? (isNamed name) with
    | none => rfl
    | some d =>
      have named := List.find?_some first
      cases d with
      | nil => cases named
      | cons w d => rfl
  · rfl

theorem directive?_isSome (policy : List (List Text)) (name : Text) :
    (directive? policy name).isSome = (policy.findIdx? (isNamed name)).isSome := by
  rw [directive?,Option.isSome_map,List.findIdx?_isSome,Bool.eq_iff_iff,List.find?_isSome,List.any_eq_true]

/-- Of a fallback chain, the list that governs gets the token, if it is its directive that grows. -/
theorem governing_modify {chain : List Text} {token : Text} (other : lower token ∉ chain) (policy : List (List Text)) (j : Nat) :
    governing (policy.modify j (· ++ [token])) chain
      = if governingPlace policy chain = some j then (governing policy chain).map (· ++ [token])
        else governing policy chain := by
  induction chain with
  | nil => rfl
  | cons name chain ih =>
    rw [List.mem_cons,not_or] at other
    have present := directive?_isSome policy name
    rw [governing,governing,governingPlace,List.findSome?_cons,List.findSome?_cons,List.findSome?_cons,
      directive?_modify other.1]
    cases list : directive? policy name with
    | none =>
      rw [list,Option.isSome_none] at present
      rw [Option.isNone_iff_eq_none.mp (Option.isSome_eq_false_iff.mp present.symm)]
      exact ih other.2
    | some tokens =>
      rw [list,Option.isSome_some] at present
      obtain ⟨i,place⟩ := Option.isSome_iff_exists.mp present.symm
      rw [place]
      by_cases same : i = j
      · simp [same]
      · simp [same]

/-! ### Plain text -/

theorem isSpace_eq {c : Char} (plain : isPlain c = true) : isSpace c = Base64.isSpace c := by
  have all : ∀ n < 0x7F, isPlain (Char.ofNat n) = true → isSpace (Char.ofNat n) = Base64.isSpace (Char.ofNat n) := by
    decide +kernel
  have small : c.toNat < 0x7F := by
    simp only [isPlain,Base64.isSpace,Bool.or_eq_true,beq_iff_eq,Bool.and_eq_true,decide_eq_true_eq] at plain
    rcases plain with ((((rfl | rfl) | rfl) | rfl) | rfl) | plain
    all_goals first | decide | omega
  have known := all c.toNat small
  rw [Char.ofNat_toNat] at known
  exact known plain

theorem ascii_of_plain {t : Text} (plain : Plain t) : (t.all fun c => c.toNat < 0x80) = true := by
  have all : ∀ c : Char, isPlain c = true → c.toNat < 0x80 := by
    intro c plain
    simp only [isPlain,Base64.isSpace,Bool.or_eq_true,beq_iff_eq,Bool.and_eq_true,decide_eq_true_eq] at plain
    rcases plain with ((((rfl | rfl) | rfl) | rfl) | rfl) | plain
    all_goals first | decide | omega
  simp only [List.all_eq_true,decide_eq_true_eq]
  exact fun c inside => all c (plain c inside)

theorem directiveWords_plain {t : Text} (plain : Plain t) : directiveWords t = wordsBy Base64.isSpace t :=
  if_pos (ascii_of_plain plain)

theorem plain_of_piece {t piece : Text} {c : Char} (plain : Plain t) (inside : piece ∈ t.splitOn c) : Plain piece := by
  rw [List.splitOn_eq_splitOnP] at inside
  exact fun d among => plain d (mem_splitOnP inside d among).2

/-- White space at both ends is what `trim` takes away. -/
theorem trim_split (t : Text) : ∃ front back, t = front ++ trim t ++ back ∧ (∀ c ∈ front, isSpace c = true) ∧
    ∀ c ∈ back, isSpace c = true := by
  refine ⟨t.takeWhile isSpace,((t.dropWhile isSpace).reverse.takeWhile isSpace).reverse,?_,
    fun c inside => List.mem_takeWhile_imp inside,fun c inside => List.mem_takeWhile_imp (List.mem_reverse.mp inside)⟩
  rw [trim,List.append_assoc,← List.reverse_append,List.takeWhile_append_dropWhile,List.reverse_reverse,
    List.takeWhile_append_dropWhile]

theorem mem_of_mem_trim {t : Text} {c : Char} (inside : c ∈ trim t) : c ∈ t := by
  obtain ⟨front,back,split,-,-⟩ := trim_split t
  rw [split]
  exact List.mem_append_left back (List.mem_append_right front inside)

theorem plain_of_trim {t : Text} (plain : Plain t) : Plain (trim t) := fun c inside => plain c (mem_of_mem_trim inside)

/-- White space makes no word, in front or behind. -/
theorem directiveWords_front {front t : Text} (plain : Plain (front ++ t)) (spaces : ∀ c ∈ front, isSpace c = true) :
    directiveWords (front ++ t) = directiveWords t := by
  have ascii : ∀ c ∈ front, Base64.isSpace c = true := fun c inside => by
    rw [← isSpace_eq (plain c (List.mem_append_left t inside))]
    exact spaces c inside
  rw [directiveWords_plain plain,directiveWords_plain fun c inside => plain c (List.mem_append_right front inside),
    wordsBy_all_append ascii]

theorem directiveWords_back {t back : Text} (plain : Plain (t ++ back)) (spaces : ∀ c ∈ back, isSpace c = true) :
    directiveWords (t ++ back) = directiveWords t := by
  have ascii : ∀ c ∈ back, Base64.isSpace c = true := fun c inside => by
    rw [← isSpace_eq (plain c (List.mem_append_right t inside))]
    exact spaces c inside
  rw [directiveWords_plain plain,directiveWords_plain fun c inside => plain c (List.mem_append_left back inside),
    wordsBy_append_all t ascii]

theorem space_ne {c d : Char} (space : isSpace c = true) (other : isSpace d = false) : d ≠ c := by
  rintro rfl
  rw [space] at other
  cases other

theorem row_trim {segment : Text} (plain : Plain segment) : row (trim segment) = row segment := by
  obtain ⟨front,back,split,before,behind⟩ := trim_split segment
  have comma : isSpace ',' = false := by decide
  have noneBefore : ',' ∉ front := fun inside => space_ne (before _ inside) comma rfl
  have noneBehind : ',' ∉ back := fun inside => space_ne (behind _ inside) comma rfl
  have inner : Plain (trim segment ++ back) := by
    rw [split,List.append_assoc] at plain
    exact fun c inside => plain c (List.mem_append_right front inside)
  conv_rhs => rw [split,List.append_assoc]
  have last : ∀ p ∈ (trim segment).splitOn ',',directiveWords (p ++ back) = id (directiveWords p) := by
    intro p piece
    refine directiveWords_back (fun c inside => ?_) behind
    rcases List.mem_append.mp inside with own | own
    · exact plain_of_piece (plain_of_trim plain) piece c own
    · exact inner c (List.mem_append_right _ own)
  have first : ∀ p ∈ (trim segment ++ back).splitOn ',',directiveWords (front ++ p) = id (directiveWords p) := by
    intro p piece
    refine directiveWords_front (fun c inside => ?_) before
    rcases List.mem_append.mp inside with own | own
    · exact plain c (by rw [split]; simp [own])
    · exact plain_of_piece inner piece c own
  rw [row,row,splitOn_append_left noneBefore,List.modifyHead_eq_modify_zero,map_modify_of first,List.modify_id,
    splitOn_append_right _ noneBehind,map_modify_of last,List.modify_id]

/-- A word that can be added to a directive. -/
structure Token (token : Text) : Prop where
  plain : Plain token
  some : token ≠ []
  free : ∀ c ∈ token, Base64.isSpace c = false ∧ c ≠ ',' ∧ c ≠ ';'

def isFree (t : Text) : Bool := t.all fun c => !Base64.isSpace c && c != ',' && c != ';'

theorem free_of_all {t : Text} (free : isFree t = true) : ∀ c ∈ t, Base64.isSpace c = false ∧ c ≠ ',' ∧ c ≠ ';' := by
  intro c inside
  have own := List.all_eq_true.mp free c inside
  simp only [Bool.and_eq_true,Bool.not_eq_true',bne_iff_ne] at own
  exact ⟨own.1.1,own.1.2,own.2⟩

theorem plain_append {one two : Text} (first : Plain one) (second : Plain two) : Plain (one ++ ' ' :: two) := by
  intro c inside
  rcases List.mem_append.mp inside with own | own
  · exact first c own
  · rcases List.mem_cons.mp own with rfl | own
    · decide
    · exact second c own

/-- A token behind a directive is a word of it. -/
theorem directiveWords_token {t token : Text} (plain : Plain t) (word : Token token) :
    directiveWords (t ++ ' ' :: token) = directiveWords t ++ [token] := by
  rw [directiveWords_plain (plain_append plain word.plain),directiveWords_plain plain,wordsBy_append_cons (by decide),
    wordsBy_of_free word.some fun c inside => (word.free c inside).1]

/-- Behind a segment it is a word of the last directive there. -/
theorem row_extended {segment token : Text} (plain : Plain segment) (word : Token token) :
    row (trim segment ++ ' ' :: token) = (row segment).modify ((row segment).length - 1) (· ++ [token]) := by
  have comma : ',' ∉ ' ' :: token := by
    intro inside
    rcases List.mem_cons.mp inside with space | inside
    · cases space
    · exact (word.free _ inside).2.1 rfl
  have added : ∀ p ∈ (trim segment).splitOn ',',directiveWords (p ++ ' ' :: token) = directiveWords p ++ [token] :=
    fun p piece => directiveWords_token (plain_of_piece (plain_of_trim plain) piece) word
  rw [← row_trim plain,row,row,splitOn_append_right _ comma,map_modify_of (h := (· ++ [token])) added,List.length_map]

/-- Text that does not end in white space has one empty piece at most, in front. -/
theorem splitSpaces_eq {t : Text} (filled : t ≠ []) (ends : ∀ c, t.getLast? = some c → isSpace c = false) :
    splitSpaces t = (if (t.head?.any isSpace) then [[]] else []) ++ wordsBy isSpace t := by
  induction t with
  | nil => exact absurd rfl filled
  | cons c t ih =>
    cases t with
    | nil =>
      have own := ends c rfl
      rw [splitSpaces,own,wordsBy_of_free filled (by simp [own])]
      simp [splitSpaces,own]
    | cons d t =>
      have rest := ih (List.cons_ne_nil d t) fun e last => ends e (by rwa [List.getLast?_cons_cons])
      rw [splitSpaces]
      cases own : isSpace c with
      | true =>
        cases next : isSpace d with
        | true => simp [rest,own,next,wordsBy_cons own]
        | false => simp [rest,own,next,wordsBy_cons own]
      | false =>
        cases next : isSpace d with
        | true =>
          have split := wordsBy_append_cons next [c] t
          rw [List.singleton_append,wordsBy_of_free (List.cons_ne_nil c []) (by simp [own])] at split
          simp [rest,own,next,split,wordsBy_cons next]
        | false => simp [rest,own,next,wordsBy_cons_cons own next]

theorem wordsBy_trim (t : Text) : wordsBy isSpace (trim t) = wordsBy isSpace t := by
  obtain ⟨front,back,split,before,behind⟩ := trim_split t
  conv_rhs => rw [split,wordsBy_append_all _ behind,wordsBy_all_append before]

theorem dropWhile_head {t : Text} {c : Char} (first : (t.dropWhile isSpace).head? = some c) : isSpace c = false := by
  have stop := List.head?_dropWhile_not isSpace t
  rw [first] at stop
  simpa using stop

theorem trim_last {t : Text} {c : Char} (last : (trim t).getLast? = some c) : isSpace c = false := by
  rw [trim,List.getLast?_reverse] at last
  exact dropWhile_head last

theorem trim_first {t : Text} {c : Char} (first : (trim t).head? = some c) : isSpace c = false := by
  obtain ⟨back,split⟩ : ∃ back, t.dropWhile isSpace = trim t ++ back := by
    refine ⟨((t.dropWhile isSpace).reverse.takeWhile isSpace).reverse,?_⟩
    rw [trim,← List.reverse_append,List.takeWhile_append_dropWhile,List.reverse_reverse]
  apply dropWhile_head (t := t)
  rw [split,List.head?_append,first]
  rfl

/-- The parts of a segment are its words; one without words has an empty name. -/
theorem parts_eq (segment : Text) : parts segment = if trim segment = [] then [[]] else wordsBy isSpace segment := by
  rw [parts]
  split
  · rename_i empty
    rw [empty]
    rfl
  · rename_i filled
    rw [splitSpaces_eq filled fun c last => trim_last last,wordsBy_trim,if_neg,List.nil_append]
    intro spaced
    obtain ⟨c,first,space⟩ := Option.any_eq_true _ _ |>.mp spaced
    rw [trim_first first] at space
    cases space

theorem directiveWords_eq {segment : Text} (plain : Plain segment) : directiveWords segment = wordsBy isSpace segment := by
  rw [directiveWords_plain plain]
  exact wordsBy_congr fun c inside => (isSpace_eq (plain c inside)).symm

theorem directiveWords_trim {segment : Text} (plain : Plain segment) :
    directiveWords (trim segment) = directiveWords segment := by
  rw [directiveWords_eq (plain_of_trim plain),directiveWords_eq plain,wordsBy_trim]

theorem wordsBy_of_trim {segment : Text} (empty : trim segment = []) : wordsBy isSpace segment = [] := by
  rw [← wordsBy_trim,empty,wordsBy_nil]

theorem firstWord_iff {segment name : Text} (plain : Plain segment) (named : name ≠ []) :
    firstWord segment = some name ↔ isNamed name (directiveWords segment) = true := by
  rw [firstWord,parts_eq,directiveWords_eq plain,isNamed,beq_iff_eq]
  split
  · rename_i empty
    rw [wordsBy_of_trim empty]
    simp [lower,named.symm]
  · rfl

theorem parts_tokens {segment : Text} (plain : Plain segment) : (parts segment).drop 1 = (directiveWords segment).tail := by
  rw [parts_eq,directiveWords_eq plain]
  split
  · rename_i empty
    rw [wordsBy_of_trim empty]
    rfl
  · exact List.drop_one

/-- A text of words only, as tokens that were joined. -/
theorem splitSpaces_intercalate {tokens : List Text} (words : ∀ w ∈ tokens, w ≠ [] ∧ ∀ c ∈ w, isSpace c = false) :
    splitSpaces ([' '].intercalate tokens) = if tokens = [] then [[]] else tokens := by
  have ends : ∀ c, ([' '].intercalate tokens).getLast? = some c → isSpace c = false := by
    induction tokens with
    | nil => simp
    | cons w tokens ih =>
      have own := words w List.mem_cons_self
      have rest := ih fun v inside => words v (List.mem_cons_of_mem w inside)
      cases tokens with
      | nil =>
        intro c last
        rw [List.intercalate_singleton] at last
        exact own.2 c (List.mem_of_getLast? last)
      | cons v tokens =>
        intro c last
        have next := words v (List.mem_cons_of_mem w List.mem_cons_self)
        have filled : [' '].intercalate (v :: tokens) ≠ [] := by
          cases tokens with
          | nil => rw [List.intercalate_singleton]; exact next.1
          | cons u tokens => simp [List.intercalate_cons_cons]
        rw [List.intercalate_cons_cons,List.getLast?_append_of_ne_nil _ filled] at last
        exact rest c last
  cases tokens with
  | nil => rfl
  | cons w tokens =>
    have own := words w List.mem_cons_self
    obtain ⟨c,w',shape⟩ := List.exists_cons_of_ne_nil own.1
    obtain ⟨rest,begins⟩ : ∃ rest, [' '].intercalate (w :: tokens) = c :: rest := by
      cases tokens with
      | nil => exact ⟨w',by rw [List.intercalate_singleton,shape]⟩
      | cons v tokens => exact ⟨_,by rw [List.intercalate_cons_cons,shape]; rfl⟩
    have first : isSpace c = false := own.2 c (by simp [shape])
    rw [splitSpaces_eq (by simp [begins]) ends,wordsBy_intercalate (by decide) words,begins]
    simp [first]

/-- The segments, put together again after a token was added to one of them. -/
def extendSegment (csp : Text) (index : Nat) (token : Text) : Text :=
  [';'].intercalate ((csp.splitOn ';').modify index fun segment => trim segment ++ ' ' :: token)

theorem not_mem_of_piece {t piece : Text} {c : Char} (inside : piece ∈ t.splitOn c) : c ∉ piece := by
  rw [List.splitOn_eq_splitOnP] at inside
  intro among
  have separates := (mem_splitOnP inside c among).1
  simp at separates

theorem splitOn_extendSegment (csp : Text) (index : Nat) {token : Text} (word : Token token) :
    (extendSegment csp index token).splitOn ';'
      = (csp.splitOn ';').modify index fun segment => trim segment ++ ' ' :: token := by
  refine List.splitOn_intercalate ';' (forall_modify (fun _ => not_mem_of_piece) (fun segment inside => ?_) index) ?_
  · intro among
    rcases List.mem_append.mp among with own | own
    · exact not_mem_of_piece inside (mem_of_mem_trim own)
    · rcases List.mem_cons.mp own with space | own
      · cases space
      · exact (word.free _ own).2.2 rfl
  · simp

/-- In the policies of the value, the token joins the directive in which the segment ends. -/
theorem readPolicies_extendSegment {csp : Text} (plain : Plain csp) {index : Nat} (inside : index < (csp.splitOn ';').length)
    {token : Text} (word : Token token) :
    readPolicies (extendSegment csp index token)
      = (readPolicies csp).modify (place (rows csp) index).1 fun policy =>
          policy.modify (place (rows csp) index).2 (· ++ [token]) := by
  have grown : rows (extendSegment csp index token)
      = (rows csp).modify index fun r => r.modify (r.length - 1) (· ++ [token]) := by
    rw [rows,splitOn_extendSegment csp index word]
    refine map_modify_of (fun segment among => ?_) index
    exact row_extended (plain_of_piece plain among) word
  rw [readPolicies_eq,grown,regroup_modify _ (rows_full csp) (by rwa [rows,List.length_map]),← readPolicies_eq]

end FFWebHid.CspText
