import FFWebHid.Policies
import FFWebHid.Utf8

/-!
The directive prologue of a script: string literals that are statements of their own, in
front of everything else. A script that has `'use strict'` among them is strict; this is
about classic scripts, since a module is always strict.
-/
namespace FFWebHid.DirectivePrologues
open FFWebHid.Policies (isSpace isQuote isQuote_iff)
open FFWebHid.Utf8 (Text)

def isNewline (c : Char) : Bool := [0xA,0xD,0x2028,0x2029].contains c.toNat

/-- Outside of comments; in one that ends with the line; behind the slash of a comment that is
    closed, in it, and behind its last star. -/
inductive Mode where
  | code
  | line
  | opened
  | block
  | star
  deriving DecidableEq, Repr

/-- The text from the next token on, and whether a line has ended before it. `<!--` begins a
    comment like `//`, and so does `-->` at the beginning of a line. -/
def skip : Mode → Bool → Text → Bool × Text
  | _,newline,[] => (newline,[])
  | .code,newline,c :: t =>
    if isNewline c then skip .code true t
    else if isSpace c then skip .code newline t
    else if c = '/' ∧ t.head? = some '/' then skip .line newline t
    else if c = '/' ∧ t.head? = some '*' then skip .opened newline t
    else if c = '<' ∧ "!--".toList <+: t then skip .line newline t
    else if newline = true ∧ c = '-' ∧ "->".toList <+: t then skip .line newline t
    else (newline,c :: t)
  | .line,newline,c :: t => if isNewline c then skip .code true t else skip .line newline t
  | .opened,newline,_ :: t => skip .block newline t
  | .block,newline,c :: t =>
    if c = '*' ∧ t.head? = some '/' then skip .star newline t else skip .block (newline || isNewline c) t
  | .star,newline,_ :: t => skip .code newline t

/-- Behind a backslash; and behind a line continuation that may go on with a line feed. -/
inductive Escape where
  | plain
  | escaped
  | return
  deriving DecidableEq, Repr

/-- The text of a string literal up to its quote, as it is written, and what follows. -/
def readString (q : Char) : Escape → Text → Option (Text × Text)
  | _,[] => none
  | escape,c :: t =>
    if escape = .escaped then
      (readString q (if c = '\r' then .return else .plain) t).map fun read => (c :: read.1,read.2)
    else if escape = .return ∧ c = '\n' then (readString q .plain t).map fun read => (c :: read.1,read.2)
    else if c = q then some ([],t)
    else if c = '\n' ∨ c = '\r' then none
    else (readString q (if c = '\\' then .escaped else .plain) t).map fun read => (c :: read.1,read.2)

def isIdentifierPart (c : Char) : Bool := c.isAlphanum || c == '_' || c == '$' || c == '\\' || 0x80 ≤ c.toNat

def beginsWord (word t : Text) : Bool := word.isPrefixOf t && !(t.drop word.length).head?.any isIdentifierPart

/-- A token that goes on with an expression on the next line. -/
def continues : Text → Bool
  | [] => false
  | c :: t =>
    "([`,*/%<>=&|^?".toList.contains c || (c == '.' && !t.head?.any Char.isDigit) || (c == '+' && t.head? != some '+') ||
      (c == '-' && t.head? != some '-') || (c == '!' && t.head? == some '=') || beginsWord "in".toList (c :: t) ||
      beginsWord "instanceof".toList (c :: t)

/-- A statement ends here: at a semicolon, or where one is inserted. -/
def ends (rest : Text) : Bool :=
  match skip .code false rest with
  | (_,[]) => true
  | (newline,c :: t) => c == ';' || c == '}' || (newline && !continues (c :: t))

/-- What follows the end of a statement. -/
def afterStatement (rest : Text) : Text :=
  match skip .code false rest with
  | (_,[]) => []
  | (_,c :: t) => if c = ';' then t else c :: t

/-- What follows each `'use strict'` of the directive prologue. -/
def useStricts : Nat → Bool → Text → List Text
  | 0,_,_ => []
  | fuel + 1,newline,t =>
    match (skip .code newline t).2 with
    | [] => []
    | q :: t =>
      if isQuote q then
        match readString q .plain t with
        | none => []
        | some (raw,rest) =>
          if ends rest then
            (if raw = "use strict".toList then [rest] else []) ++ useStricts fuel false (afterStatement rest)
          else []
      else []

/-- A first line that begins with `#!` is a comment. -/
def hashbang : Text → Text
  | '#' :: '!' :: t => '/' :: '/' :: t
  | t => t

def strictRests (t : Text) : List Text := useStricts (t.length + 1) true (hashbang t)

def isStrict (t : Text) : Bool := !(strictRests t).isEmpty

/-! ### Suffixes -/

theorem skip_suffix (mode : Mode) (newline : Bool) (t : Text) : (skip mode newline t).2 <:+ t := by
  induction t generalizing mode newline with
  | nil => cases mode <;> exact List.suffix_rfl
  | cons c t ih =>
    have later {m : Mode} {n : Bool} : (skip m n t).2 <:+ c :: t := (ih m n).trans (List.suffix_cons c t)
    cases mode with
    | code =>
      rw [skip]
      split_ifs
      all_goals first | exact later | exact List.suffix_rfl
    | line =>
      rw [skip]
      split <;> exact later
    | opened => exact later
    | block =>
      rw [skip]
      split <;> exact later
    | star => exact later

/-- A literal is its text, the quote and what follows. -/
theorem readString_text {q : Char} {escape : Escape} {t raw rest : Text}
    (read : readString q escape t = some (raw,rest)) : t = raw ++ q :: rest := by
  induction t generalizing escape raw rest with
  | nil => cases read
  | cons c t ih =>
    have later {e : Escape} (found : (readString q e t).map (fun r => (c :: r.1,r.2)) = some (raw,rest)) :
        c :: t = raw ++ q :: rest := by
      obtain ⟨⟨raw',rest'⟩,own,same⟩ := Option.map_eq_some_iff.mp found
      obtain ⟨rfl,rfl⟩ := Prod.mk.inj same
      rw [ih own]
      rfl
    rw [readString] at read
    split at read
    · exact later read
    · split at read
      · exact later read
      · split at read
        · rename_i quote
          obtain ⟨rfl,rfl⟩ := Prod.mk.inj (Option.some.inj read)
          rw [quote]
          rfl
        · split at read
          · cases read
          · exact later read

/-- Characters that end white space and comments whatever follows: they begin no comment and are
    in none of the marks that do. -/
def Stops (c : Char) : Prop := isSpace c = false ∧ isNewline c = false ∧ c ∉ "/*<!->".toList

theorem stops_of_quote {q : Char} (quote : isQuote q = true) : Stops q := by
  unfold Stops
  rcases isQuote_iff.mp quote with rfl | rfl <;> decide

theorem continues_quote {q : Char} (quote : isQuote q = true) (t : Text) : continues (q :: t) = false := by
  rcases isQuote_iff.mp quote with rfl | rfl <;> rfl

theorem stops_semicolon : Stops ';' := by
  unfold Stops
  decide

theorem head?_append_cons (u : Text) (c : Char) (s : Text) : (u ++ c :: s).head? = (u ++ [c]).head? := by
  cases u <;> rfl

/-- A mark without the character is found before it or not at all. -/
theorem prefix_append_cons {mark u : Text} {c : Char} (without : c ∉ mark) (s : Text) :
    mark <+: u ++ c :: s ↔ mark <+: u := by
  refine ⟨fun begins => ?_,fun begins => begins.trans (List.prefix_append u _)⟩
  induction mark generalizing u with
  | nil => exact List.nil_prefix
  | cons d mark ih =>
    rw [List.mem_cons,not_or] at without
    cases u with
    | nil =>
      obtain ⟨same,-⟩ := List.cons_prefix_cons.mp begins
      exact absurd same.symm without.1
    | cons e u =>
      obtain ⟨same,rest⟩ := List.cons_prefix_cons.mp begins
      exact List.cons_prefix_cons.mpr ⟨same,ih without.2 rest⟩

theorem skip_stop {c : Char} (stops : Stops c) (newline : Bool) (s : Text) :
    skip .code newline (c :: s) = (newline,c :: s) := by
  have outside := stops.2.2
  have slash : c ≠ '/' := fun same => outside (by rw [same]; decide)
  have less : c ≠ '<' := fun same => outside (by rw [same]; decide)
  have minus : c ≠ '-' := fun same => outside (by rw [same]; decide)
  rw [skip,if_neg (by simp [stops.2.1]),if_neg (by simp [stops.1]),if_neg (by simp [slash]),if_neg (by simp [slash]),
    if_neg (by simp [less]),if_neg (by simp [minus])]

/-- What is skipped before such a character does not depend on what is behind it. -/
theorem skip_behind {c : Char} (stops : Stops c) {mode : Mode} {newline newline' : Bool} (u s s' : Text)
    (skipped : skip mode newline (u ++ c :: s) = (newline',c :: s)) :
    skip mode newline (u ++ c :: s') = (newline',c :: s') := by
  have short {m : Mode} {n : Bool} {t : Text} (below : t.length < (c :: s).length)
      (same : skip m n t = (newline',c :: s)) : False := by
    have suffix := (skip_suffix m n t).length_le
    rw [same] at suffix
    exact absurd suffix (Nat.not_le.mpr below)
  induction u generalizing mode newline with
  | nil =>
    cases mode with
    | code =>
      rw [List.nil_append,skip_stop stops] at skipped ⊢
      rw [(Prod.mk.inj skipped).1]
    | line =>
      rw [List.nil_append,skip,if_neg (by simp [stops.2.1])] at skipped
      exact (short (Nat.lt_succ_self _) skipped).elim
    | opened => exact (short (Nat.lt_succ_self _) skipped).elim
    | block =>
      have star : c ≠ '*' := fun same => stops.2.2 (by rw [same]; decide)
      rw [List.nil_append,skip,if_neg (by simp [star])] at skipped
      exact (short (Nat.lt_succ_self _) skipped).elim
    | star => exact (short (Nat.lt_succ_self _) skipped).elim
  | cons d u ih =>
    have outside (mark : Text) (among : mark.all ("/*<!->".toList.contains ·) = true) : c ∉ mark := by
      intro inside
      have found := List.all_eq_true.mp among c inside
      exact stops.2.2 (List.elem_iff.mp found)
    cases mode with
    | code =>
      have open_ (s : Text) := prefix_append_cons (u := u) (outside "!--".toList (by decide)) s
      have close (s : Text) := prefix_append_cons (u := u) (outside "->".toList (by decide)) s
      rw [List.cons_append,skip] at skipped ⊢
      simp only [head?_append_cons u c s,open_ s,close s] at skipped
      simp only [head?_append_cons u c s',open_ s',close s']
      split_ifs at skipped ⊢
      all_goals first
        | exact ih skipped
        | skip
      have same := congrArg List.length (Prod.mk.inj skipped).2
      simp at same
      omega
    | line =>
      rw [List.cons_append,skip] at skipped ⊢
      split_ifs at skipped ⊢
      all_goals exact ih skipped
    | opened => exact ih skipped
    | block =>
      rw [List.cons_append,skip,head?_append_cons u c s] at skipped
      rw [List.cons_append,skip,head?_append_cons u c s']
      split_ifs at skipped ⊢
      all_goals exact ih skipped
    | star => exact ih skipped

theorem readString_behind {q : Char} {escape : Escape} {raw : Text} (x s s' : Text)
    (read : readString q escape (x ++ s) = some (raw,s)) : readString q escape (x ++ s') = some (raw,s') := by
  induction x generalizing escape raw with
  | nil =>
    have length := congrArg List.length (readString_text read)
    simp at length
    omega
  | cons d x ih =>
    have later {e : Escape} (found : (readString q e (x ++ s)).map (fun r => (d :: r.1,r.2)) = some (raw,s)) :
        (readString q e (x ++ s')).map (fun r => (d :: r.1,r.2)) = some (raw,s') := by
      obtain ⟨⟨raw',rest⟩,own,same⟩ := Option.map_eq_some_iff.mp found
      obtain ⟨rfl,rfl⟩ := Prod.mk.inj same
      rw [ih own]
      rfl
    rw [List.cons_append,readString] at read ⊢
    split_ifs at read ⊢
    all_goals first
      | exact later read
      | skip
    obtain ⟨rfl,same⟩ := Prod.mk.inj (Option.some.inj read)
    rw [List.append_left_eq_self.mp same]
    rfl

/-- A token that was reached is where it is, also on the line of what comes before. -/
theorem skip_again {mode : Mode} {newline newline' : Bool} {t r : Text} {c : Char}
    (skipped : skip mode newline t = (newline',c :: r)) : skip .code false (c :: r) = (false,c :: r) := by
  induction t generalizing mode newline with
  | nil => cases mode <;> cases skipped
  | cons d t ih =>
    cases mode with
    | code =>
      rw [skip] at skipped
      split_ifs at skipped with isNew isWhite line block opens closes
      all_goals first
        | exact ih skipped
        | skip
      obtain ⟨-,same⟩ := Prod.mk.inj skipped
      obtain ⟨rfl,rfl⟩ := List.cons.inj same
      rw [skip,if_neg isNew,if_neg isWhite,if_neg line,if_neg block,if_neg opens,if_neg (by simp)]
    | line =>
      rw [skip] at skipped
      split at skipped <;> exact ih skipped
    | opened => exact ih skipped
    | block =>
      rw [skip] at skipped
      split at skipped <;> exact ih skipped
    | star => exact ih skipped

/-- A suffix that is longer than the end of a text begins in front of it. -/
theorem split_of_suffix {a y s : Text} (suffix : s <:+ a ++ y) (long : y.length ≤ s.length) :
    ∃ u v, a = u ++ v ∧ s = v ++ y := by
  obtain ⟨u,whole⟩ := suffix
  rcases List.append_eq_append_iff.mp whole with ⟨v,rfl,rfl⟩ | ⟨v,rfl,rfl⟩
  · exact ⟨u,v,rfl,rfl⟩
  · rw [List.length_append] at long
    obtain rfl : v = [] := List.eq_nil_of_length_eq_zero (by omega)
    exact ⟨a,[],(List.append_nil a).symm,rfl⟩

theorem afterStatement_suffix (rest : Text) : afterStatement rest <:+ rest := by
  have skipped := skip_suffix .code false rest
  unfold afterStatement
  split
  · exact List.nil_suffix
  · rename_i newline c t same
    rw [same] at skipped
    split
    · exact (List.suffix_cons c t).trans skipped
    · exact skipped

/-- A script that begins with a directive: the literal, and what follows it. -/
structure Begins (newline : Bool) (t : Text) (q : Char) (raw rest : Text) : Prop where
  quote : isQuote q = true
  literal : ∃ newline' t',skip .code newline t = (newline',q :: t') ∧ readString q .plain t' = some (raw,rest)
  ended : ends rest = true

/-- It follows the first directive, or one behind that. -/
theorem mem_useStricts_succ {fuel : Nat} {newline : Bool} {t s : Text} : s ∈ useStricts (fuel + 1) newline t ↔
    ∃ q raw rest,Begins newline t q raw rest ∧
      (raw = "use strict".toList ∧ s = rest ∨ s ∈ useStricts fuel false (afterStatement rest)) := by
  rw [useStricts]
  constructor
  · intro inside
    split at inside
    · exact absurd inside List.not_mem_nil
    · rename_i q t' skipped
      split_ifs at inside with quote
      · split at inside
        · exact absurd inside List.not_mem_nil
        · rename_i raw rest read
          split_ifs at inside with ended strict
          · exact ⟨q,raw,rest,⟨quote,⟨_,t',Prod.ext rfl skipped,read⟩,ended⟩,
              (List.mem_cons.mp inside).imp (fun same => ⟨strict,same⟩) id⟩
          · exact ⟨q,raw,rest,⟨quote,⟨_,t',Prod.ext rfl skipped,read⟩,ended⟩,.inr inside⟩
          · exact absurd inside List.not_mem_nil
      · exact absurd inside List.not_mem_nil
  · rintro ⟨q,raw,rest,⟨quote,⟨newline',t',skipped,read⟩,ended⟩,found⟩
    rw [skipped]
    dsimp only
    rw [if_pos quote,read]
    dsimp only
    rw [if_pos ended,List.mem_append]
    rcases found with ⟨strict,rfl⟩ | later
    · exact .inl (by rw [if_pos strict]; exact List.mem_singleton_self s)
    · exact .inr later

/-- A directive is `'use strict'` between quotes. -/
theorem useStricts_text {fuel : Nat} {newline : Bool} {t s : Text} (found : s ∈ useStricts fuel newline t) :
    ∃ before q, isQuote q = true ∧ t = before ++ q :: ("use strict".toList ++ q :: s) := by
  induction fuel generalizing newline t with
  | zero => exact absurd found List.not_mem_nil
  | succ fuel ih =>
    obtain ⟨q,raw,rest,⟨quote,⟨newline',t',skipped,read⟩,-⟩,follows⟩ := mem_useStricts_succ.mp found
    have literal := readString_text read
    have suffix := skip_suffix .code newline t
    rw [skipped] at suffix
    obtain ⟨before,rfl⟩ := suffix
    rcases follows with ⟨strict,rfl⟩ | later
    · exact ⟨before,q,quote,by rw [literal,strict]⟩
    · obtain ⟨between,q',quote',shape⟩ := ih later
      obtain ⟨gap,rest'⟩ := afterStatement_suffix rest
      refine ⟨before ++ q :: (raw ++ q :: (gap ++ between)),q',quote',?_⟩
      rw [literal,← rest',shape]
      simp

theorem useStricts_le {fuel enough : Nat} (more : fuel ≤ enough) {newline : Bool} {t s : Text}
    (found : s ∈ useStricts fuel newline t) : s ∈ useStricts enough newline t := by
  induction fuel generalizing enough newline t with
  | zero => exact absurd found List.not_mem_nil
  | succ fuel ih =>
    cases enough with
    | zero => exact absurd more (Nat.not_succ_le_zero fuel)
    | succ enough =>
      obtain ⟨q,raw,rest,begins,found⟩ := mem_useStricts_succ.mp found
      exact mem_useStricts_succ.mpr ⟨q,raw,rest,begins,found.imp_right (ih (Nat.le_of_succ_le_succ more))⟩

theorem useStricts_suffix {fuel : Nat} {newline : Bool} {t s : Text} (found : s ∈ useStricts fuel newline t) :
    s <:+ t ∧ s.length < t.length := by
  obtain ⟨before,q,-,rfl⟩ := useStricts_text found
  exact ⟨⟨before ++ q :: ("use strict".toList ++ [q]),by simp⟩,by simp; omega⟩

/-- Where a further directive follows, the end of the statement in front of it does not depend on
    what is behind. -/
theorem afterStatement_behind {fuel : Nat} {w y : Text} (x : Text) (ended : ends (w ++ y) = true)
    (found : y ∈ useStricts fuel false (afterStatement (w ++ y))) :
    ends (w ++ x) = true ∧ ∃ v, afterStatement (w ++ y) = v ++ y ∧ afterStatement (w ++ x) = v ++ x := by
  have inside := useStricts_suffix found
  have suffix := skip_suffix .code false (w ++ y)
  rw [ends] at ended
  rw [afterStatement] at inside found ⊢
  rcases skipped : skip .code false (w ++ y) with ⟨newline,r⟩
  rw [skipped] at ended inside found suffix
  cases r with
  | nil => exact absurd inside.2 (Nat.not_lt_zero _)
  | cons c t =>
    dsimp only at ended inside found suffix ⊢
    -- the token begins in `w`, since `y` follows a directive behind it
    have long : y.length < (c :: t).length := by
      split_ifs at inside
      · exact Nat.lt_succ_of_lt inside.2
      · exact inside.2
    obtain ⟨u,v,rfl,shape⟩ := split_of_suffix suffix (Nat.le_of_lt long)
    cases v with
    | nil =>
      rw [List.nil_append] at shape
      rw [shape] at long
      exact absurd long (lt_irrefl _)
    | cons c' v =>
      obtain ⟨rfl,rfl⟩ := List.cons.inj shape
      rw [List.append_assoc] at skipped
      by_cases semicolon : c = ';'
      · have behind := skip_behind (semicolon ▸ stops_semicolon) u _ (v ++ x) skipped
        rw [ends,afterStatement,List.append_assoc,List.cons_append,behind]
        simp [semicolon]
      · rw [if_neg semicolon] at found
        have quote : isQuote c = true := by
          cases fuel with
          | zero => exact absurd found List.not_mem_nil
          | succ fuel =>
            obtain ⟨q,raw,rest,⟨quote,⟨newline',t',again,-⟩,-⟩,-⟩ := mem_useStricts_succ.mp found
            rw [skip_again skipped] at again
            rw [(List.cons.inj (Prod.mk.inj again).2).1]
            exact quote
        have behind := skip_behind (stops_of_quote quote) u _ (v ++ x) skipped
        have brace : c ≠ '}' := by
          rcases isQuote_iff.mp quote with rfl | rfl <;> decide
        rw [continues_quote quote] at ended
        rw [ends,afterStatement,List.append_assoc,List.cons_append,behind]
        simp only [continues_quote quote,if_neg semicolon]
        simp only [semicolon,brace,beq_iff_eq,Bool.or_eq_true,false_or,Bool.and_eq_true] at ended
        exact ⟨by simp [ended.1],c :: v,rfl,rfl⟩

/-- A directive is read alike, whatever is behind the text it lies in. -/
theorem literal_behind {newline newline' : Bool} {a y t raw rest : Text} {q : Char}
    (skipped : skip .code newline (a ++ y) = (newline',q :: t)) (quote : isQuote q = true)
    (read : readString q .plain t = some (raw,rest)) (behind : y <:+ rest) (x : Text) :
    ∃ v w, rest = w ++ y ∧ skip .code newline (a ++ x) = (newline',q :: v) ∧
      readString q .plain v = some (raw,w ++ x) := by
  have literal := readString_text read
  have long : y.length ≤ t.length := by
    have below := behind.length_le
    rw [literal]
    simp
    omega
  have suffix := skip_suffix .code newline (a ++ y)
  rw [skipped] at suffix
  obtain ⟨u,v,rfl,shape⟩ := split_of_suffix suffix (Nat.le_succ_of_le long)
  cases v with
  | nil =>
    rw [List.nil_append] at shape
    rw [← shape] at long
    exact absurd long (Nat.not_succ_le_self _)
  | cons q' v =>
    obtain ⟨rfl,rfl⟩ := List.cons.inj shape
    obtain ⟨x₁,w,rfl,rfl⟩ : ∃ x₁ w, v = x₁ ++ w ∧ rest = w ++ y :=
      split_of_suffix ⟨raw ++ [q],by rw [List.append_assoc]; exact literal.symm⟩ behind.length_le
    rw [List.append_assoc] at skipped
    refine ⟨x₁ ++ w ++ x,w,rfl,?_,?_⟩
    · rw [List.append_assoc]
      exact skip_behind (stops_of_quote quote) u _ (x₁ ++ w ++ x) skipped
    · rw [List.append_assoc]
      refine readString_behind x₁ (w ++ y) (w ++ x) ?_
      rw [← List.append_assoc]
      exact read

/-- A directive stays one when another end of a statement follows it. -/
theorem useStricts_behind {fuel : Nat} {newline : Bool} {a y x : Text} (found : y ∈ useStricts fuel newline (a ++ y))
    (ended : ends x = true) : x ∈ useStricts fuel newline (a ++ x) := by
  induction fuel generalizing newline a with
  | zero => exact absurd found List.not_mem_nil
  | succ fuel ih =>
    obtain ⟨q,raw,rest,⟨quote,⟨newline',t,skipped,read⟩,ended'⟩,found⟩ := mem_useStricts_succ.mp found
    rcases found with ⟨strict,rfl⟩ | later
    · obtain ⟨v,w,same,skipped',read'⟩ := literal_behind skipped quote read List.suffix_rfl x
      obtain rfl := List.self_eq_append_left.mp same
      exact mem_useStricts_succ.mpr ⟨q,raw,x,⟨quote,⟨newline',v,skipped',read'⟩,ended⟩,.inl ⟨strict,rfl⟩⟩
    · have behind := (useStricts_suffix later).1.trans (afterStatement_suffix rest)
      obtain ⟨v,w,rfl,skipped',read'⟩ := literal_behind skipped quote read behind x
      obtain ⟨ends',v',before,after⟩ := afterStatement_behind x ended' later
      rw [before] at later
      refine mem_useStricts_succ.mpr ⟨q,raw,w ++ x,⟨quote,⟨newline',v,skipped',read'⟩,ends'⟩,.inr ?_⟩
      rw [after]
      exact ih later

theorem hashbang_length (t : Text) : (hashbang t).length = t.length := by
  unfold hashbang
  split <;> rfl

theorem hashbang_append {a : Text} (long : 2 ≤ a.length) (x : Text) : hashbang (a ++ x) = hashbang a ++ x := by
  match a,long with
  | c :: d :: a,_ =>
    by_cases marked : c = '#' ∧ d = '!'
    · obtain ⟨rfl,rfl⟩ := marked
      rfl
    · have plain (t : Text) : hashbang (c :: d :: t) = c :: d :: t := by
        unfold hashbang
        split
        · rename_i same
          obtain ⟨rfl,rest⟩ := List.cons.inj same
          exact absurd ⟨rfl,(List.cons.inj rest).1⟩ marked
        · rfl
      rw [List.cons_append,List.cons_append,plain,plain]
      rfl

/-- A text in front of what follows a directive ends with it. -/
theorem strictRests_text {a y : Text} (found : y ∈ strictRests (a ++ y)) :
    2 ≤ a.length ∧ ∃ before q, isQuote q = true ∧ a = before ++ q :: ("use strict".toList ++ [q]) := by
  obtain ⟨before,q,quote,shape⟩ := useStricts_text found
  have length := congrArg List.length shape
  rw [hashbang_length] at length
  have long : 2 ≤ a.length := by
    simp at length
    omega
  rw [hashbang_append long] at shape
  have cut : hashbang a ++ y = (before ++ q :: ("use strict".toList ++ [q])) ++ y := by simp [shape]
  have ending := List.append_cancel_right cut
  refine ⟨long,?_⟩
  unfold hashbang at ending
  split at ending
  · -- a directive does not begin in `//`
    rename_i t
    have slash {q : Char} (quote : isQuote q = true) : q ≠ '/' := fun same => absurd (same ▸ quote) (by decide)
    rcases before with _ | ⟨c,_ | ⟨d,before⟩⟩
    · exact absurd (List.cons.inj ending).1.symm (slash quote)
    · exact absurd (List.cons.inj (List.cons.inj ending).2).1.symm (slash quote)
    · exact ⟨'#' :: '!' :: before,q,quote,
        congrArg (fun t => '#' :: '!' :: t) (List.cons.inj (List.cons.inj ending).2).2⟩
  · exact ⟨before,q,quote,ending⟩

theorem strictRests_behind {a y x : Text} (found : y ∈ strictRests (a ++ y)) (ended : ends x = true)
    (longer : y.length ≤ x.length) : x ∈ strictRests (a ++ x) := by
  have long := (strictRests_text found).1
  rw [strictRests,hashbang_append long] at found ⊢
  refine useStricts_le ?_ (useStricts_behind found ended)
  simp
  omega

end FFWebHid.DirectivePrologues
