import Mathlib.Algebra.GroupWithZero.Nat
import Mathlib.Data.List.TakeWhile
import FFWebHid.DirectivePrologues

/-!
The polyfill bundle in the scripts of workers: the filter of a response, whose tasks wait for
each other, and the place that a search in the first chunk finds for the bundle. The source is
`webrequest.js` (`handleInjection`); the bundle comes from `bundle.js`. The scripts are classic
ones: a module is strict whatever stands in front of it.
-/
namespace FFWebHid.WorkerInjection
open FFWebHid.Policies (isSpace isQuote isQuote_iff)
open FFWebHid.Utf8 FFWebHid.DirectivePrologues

/-- `replace(/\/\/[^\n]*\n/g, '')`, outside of a comment or in one. -/
def withoutLineComments : Bool → Text → Text
  | _,[] => []
  | true,c :: t => withoutLineComments (c != '\n') t
  | false,c :: t =>
    if c = '/' ∧ t.head? = some '/' ∧ '\n' ∈ t then withoutLineComments true t else c :: withoutLineComments false t

/-- `replace(/\/\*[\s\S]*?\*\//g, '')`. -/
def withoutBlockComments : Mode → Text → Text
  | _,[] => []
  | .code,c :: t =>
    if c = '/' ∧ t.head? = some '*' ∧ "*/".toList <:+: t.tail then withoutBlockComments .opened t
    else c :: withoutBlockComments .code t
  | .opened,_ :: t => withoutBlockComments .block t
  | .star,_ :: t => withoutBlockComments .code t
  | _,c :: t => withoutBlockComments (if c = '*' ∧ t.head? = some '/' then .star else .block) t

/-- `/^\s*["']use strict["'];?\s*/` of the text without comments. The quotes need not be alike. -/
def hasUseStrict (str : Text) : Bool :=
  match (withoutBlockComments .code (withoutLineComments false str)).dropWhile isSpace with
  | [] => false
  | q :: t => isQuote q && "use strict".toList.isPrefixOf t && (t.drop "use strict".length).head?.any isQuote

def indexOf? (word : Text) : Text → Option Nat
  | [] => if word = [] then some 0 else none
  | c :: t => if word <+: c :: t then some 0 else (indexOf? word t).map (units c + ·)

/-- `slice(0, end)` and `slice(end)` as they are encoded: the halves of a character that is cut
    are replaced. -/
def slices : Nat → Text → Text × Text
  | _,[] => ([],[])
  | last,c :: t =>
    if last = 0 then ([],c :: t)
    else if last < units c then ([replacement],replacement :: t)
    else (c :: (slices (last - units c) t).1,(slices (last - units c) t).2)

def literal (q : Char) : Text := q :: ("use strict".toList ++ [q])

/-- The text between double quotes wherever it is, otherwise the one between single quotes. -/
def position? (str : Text) : Option Nat := (indexOf? (literal '"') str).or (indexOf? (literal '\'') str)

/-- A semicolon and white space. -/
def gap (t : Text) : Text := if t.head? = some ';' then ';' :: t.tail.takeWhile isSpace else t.takeWhile isSpace

/-- What is written before the bundle and after it. Where nothing is found, `pos` is -1. -/
def cut (str : Text) : Text × Text :=
  let literals := slices ((position? str).elim 11 (· + 12)) str
  (literals.1 ++ gap literals.2,literals.2.drop (gap literals.2).length)

def moduleComment : Text :=
  "/**\n * Captures host intrinsics and exposes the shared WebHID module registry.\n * @module bootstrap\n */\n".toList

/-- The first lines of `bootstrap.js`, the first file of the bundle. -/
def bootstrap : Text := moduleComment ++ ";(function () \x7b\n".toList

structure Bundle where
  text : Text
  opening : bootstrap <+: text

/-- What the first task finds: `Sec-Fetch-Dest` as it was recorded, and the bundle, whose files
    may fail to load. -/
structure Answers where
  dest : Option String
  bundle : Option (Option Bundle)

inductive Write where
  | bytes (data : List UInt8)
  | bundle (text : Text)
  deriving DecidableEq, Repr

inductive Task where
  | first (data : List UInt8)
  | later (data : List UInt8)
  | close
  deriving DecidableEq, Repr

/-- `injectPromise` is the list of its tasks that have not run. -/
structure Filter where
  firstChunk : Bool := true
  tasks : List Task := []
  rejected : Bool := false
  written : List Write := []
  closed : Bool := false

def isWorkerScope (dest : Option String) : Bool := dest == none || dest == some "worker"

/-- What the fresh decoder gives of the first chunk. -/
def firstText (data : List UInt8) : Text := (Decoder.stream {} data).1

def inject (bundle : Bundle) (data : List UInt8) : List Write :=
  let str := firstText data
  if hasUseStrict str then [.bytes (encode (cut str).1),.bundle bundle.text,.bytes (encode (cut str).2)]
  else [.bundle bundle.text,.bytes data]

/-- The next task runs; once one has failed, those behind it do nothing. -/
def Filter.turn (a : Answers) (f : Filter) : Filter :=
  match f.tasks with
  | [] => f
  | task :: tasks =>
    if f.rejected then { f with tasks }
    else match task,a.bundle with
      | .first _,none => { f with tasks,rejected := true }
      | .first data,some (some bundle) =>
        if isWorkerScope a.dest then { f with tasks,written := f.written ++ inject bundle data }
        else { f with tasks,written := f.written ++ [.bytes data] }
      | .first data,some none => { f with tasks,written := f.written ++ [.bytes data] }
      | .later data,_ => { f with tasks,written := f.written ++ [.bytes data] }
      | .close,_ => { f with tasks,closed := true }

/-- `ondata`, `onstop`, and a task of the promise. -/
inductive Event where
  | data (chunk : List UInt8)
  | stop
  | turn
  deriving DecidableEq, Repr

def Filter.step (a : Answers) (f : Filter) : Event → Filter
  | .data chunk =>
    if f.firstChunk then { f with firstChunk := false,tasks := f.tasks ++ [.first chunk] }
    else { f with tasks := f.tasks ++ [.later chunk] }
  | .stop => { f with tasks := f.tasks ++ [.close] }
  | .turn => f.turn a

def run (a : Answers) (events : List Event) : Filter := events.foldl (Filter.step a) {}

/-! ### What the injection is for -/

/-- What a script says. -/
def read (bytes : List UInt8) : Text := withoutMark (decode bytes)

def Write.isBundle : Write → Bool
  | .bundle _ => true
  | .bytes _ => false

/-- What is written, without the bundle and with it. -/
def original (writes : List Write) : List UInt8 :=
  writes.flatMap fun
    | .bytes data => data
    | .bundle _ => []

def output (writes : List Write) : List UInt8 :=
  writes.flatMap fun
    | .bytes data => data
    | .bundle text => encode text

def beforeBundle (writes : List Write) : List UInt8 := original (writes.takeWhile fun w => !w.isBundle)

/-- The end of a statement, and white space. -/
structure Gap (between : Text) : Prop where
  shape : ∃ white, (∀ c ∈ white, isSpace c = true) ∧ (between = white ∨ between = ';' :: white)

/-- The bytes go up to a `'use strict'` of the prologue and no further than to the next token. -/
def BehindDirective (body front : List UInt8) : Prop :=
  ∃ before between rest, Gap between ∧ read body = before ++ (between ++ rest) ∧
    between ++ rest ∈ strictRests (read body) ∧ front = encode (before ++ between)

/-- The script is what it was around one bundle, which is in front of it or behind its directive,
    and it is strict if it was. -/
structure Injected (body : List UInt8) (writes : List Write) : Prop where
  once : writes.countP Write.isBundle = 1
  original : original writes = body
  place : beforeBundle writes = [] ∨ BehindDirective body (beforeBundle writes)
  strict : isStrict (read (output writes)) = isStrict (read body)

theorem indexOf?_some {word t : Text} {n : Nat} (found : indexOf? word t = some n) :
    ∃ pre after, t = pre ++ (word ++ after) ∧ n = (pre.map units).sum := by
  induction t generalizing n with
  | nil =>
    rw [indexOf?] at found
    split_ifs at found with empty
    obtain rfl := Option.some.inj found
    exact ⟨[],[],by rw [empty]; rfl,rfl⟩
  | cons c t ih =>
    rw [indexOf?] at found
    split_ifs at found with here
    · obtain ⟨after,shape⟩ := here
      obtain rfl := Option.some.inj found
      exact ⟨[],after,shape.symm,rfl⟩
    · obtain ⟨m,later,rfl⟩ := Option.map_eq_some_iff.mp found
      obtain ⟨pre,after,rfl,rfl⟩ := ih later
      exact ⟨c :: pre,after,rfl,rfl⟩

theorem indexOf?_none {word t : Text} (missing : indexOf? word t = none) : ¬ word <:+: t := by
  induction t with
  | nil =>
    rw [indexOf?] at missing
    split_ifs at missing with empty
    exact fun inside => empty (List.infix_nil.mp inside)
  | cons c t ih =>
    rw [indexOf?] at missing
    split_ifs at missing with here
    intro inside
    rcases List.infix_cons_iff.mp inside with front | later
    · exact here front
    · exact ih (Option.map_eq_none_iff.mp missing) later

theorem slices_append (front back : Text) : slices (front.map units).sum (front ++ back) = (front,back) := by
  induction front with
  | nil => cases back <;> rfl
  | cons c front ih =>
    have some := units_pos c
    rw [List.map_cons,List.sum_cons,List.cons_append,slices,if_neg (by omega),if_neg (by omega),Nat.add_sub_cancel_left,ih]

/-- A text is cut in two, or one of its characters is. -/
theorem slices_cut (last : Nat) (t : Text) : t = (slices last t).1 ++ (slices last t).2 ∨
    ∃ u v, (slices last t).1 = u ++ [replacement] ∧ (slices last t).2 = replacement :: v := by
  induction t generalizing last with
  | nil => exact .inl rfl
  | cons c t ih =>
    rw [slices]
    split_ifs
    · exact .inl rfl
    · exact .inr ⟨[],t,rfl,rfl⟩
    · rcases ih (last - units c) with whole | ⟨u,v,front,back⟩
      · exact .inl (congrArg (c :: ·) whole)
      · exact .inr ⟨c :: u,v,congrArg (c :: ·) front,back⟩

theorem slices_nonempty {last : Nat} {t : Text} (positive : 0 < last) (text : t ≠ []) : (slices last t).1 ≠ [] := by
  cases t with
  | nil => exact absurd rfl text
  | cons c t =>
    rw [slices,if_neg (by omega)]
    split <;> exact List.cons_ne_nil _ _

theorem gap_begins (t : Text) : gap t <+: t := by
  unfold gap
  split
  · rename_i semicolon
    obtain ⟨rest,rfl⟩ : ∃ rest, t = ';' :: rest := by
      cases t with
      | nil => cases semicolon
      | cons c rest => exact ⟨rest,by rw [Option.some.inj semicolon]⟩
    exact List.cons_prefix_cons.mpr ⟨rfl,List.takeWhile_prefix isSpace⟩
  · exact List.takeWhile_prefix isSpace

theorem gap_isGap (t : Text) : Gap (gap t) := by
  unfold gap
  split
  · exact ⟨_,fun c inside => List.mem_takeWhile_imp inside,.inr rfl⟩
  · exact ⟨_,fun c inside => List.mem_takeWhile_imp inside,.inl rfl⟩

theorem gap_append (t : Text) : gap t ++ t.drop (gap t).length = t :=
  List.prefix_iff_eq_append.mp (gap_begins t)

/-- A position that was found cuts the text behind a literal. -/
theorem position?_some {str : Text} {p : Nat} (found : position? str = some p) :
    ∃ pre q after, isQuote q = true ∧ str = pre ++ literal q ++ after ∧ slices (p + 12) str = (pre ++ literal q,after) := by
  have of {q : Char} (quote : isQuote q = true) (twelve : ((literal q).map units).sum = 12)
      (at_ : indexOf? (literal q) str = some p) : ∃ pre q after, isQuote q = true ∧
        str = pre ++ literal q ++ after ∧ slices (p + 12) str = (pre ++ literal q,after) := by
    obtain ⟨pre,after,shape,rfl⟩ := indexOf?_some at_
    rw [← List.append_assoc] at shape
    refine ⟨pre,q,after,quote,shape,?_⟩
    have whole := slices_append (pre ++ literal q) after
    rwa [List.map_append,List.sum_append,twelve,← shape] at whole
  rcases Option.or_eq_some_iff.mp found with double | ⟨-,single⟩
  · exact of (by decide) (by decide) double
  · exact of (by decide) (by decide) single

theorem position?_none {str : Text} {q : Char} (missing : position? str = none) (quote : isQuote q = true) :
    ¬ literal q <:+: str := by
  obtain ⟨double,single⟩ := Option.or_eq_none_iff.mp missing
  rcases isQuote_iff.mp quote with rfl | rfl
  · exact indexOf?_none single
  · exact indexOf?_none double

theorem Gap.unquoted {between : Text} (fits : Gap between) : ∀ c ∈ between, isQuote c = false := by
  obtain ⟨white,spaces,shape⟩ := fits
  have plain : ∀ c ∈ white, isQuote c = false := fun c inside => by
    by_contra quote
    have space := spaces c inside
    rcases isQuote_iff.mp (Bool.not_eq_false _ ▸ quote) with rfl | rfl
    · exact absurd space (by decide)
    · exact absurd space (by decide)
  rcases shape with rfl | rfl
  · exact plain
  · intro c inside
    rcases List.mem_cons.mp inside with rfl | among
    · decide
    · exact plain c among

/-- A text has one last quote. -/
theorem last_quote {x x' g g' : Text} {q q' : Char} (quote : isQuote q = true) (quote' : isQuote q' = true)
    (none : ∀ c ∈ g, isQuote c = false) (none' : ∀ c ∈ g', isQuote c = false) (same : x ++ q :: g = x' ++ q' :: g') :
    x = x' ∧ q = q' ∧ g = g' := by
  have within {u v w : Text} {a b : Char} (isA : isQuote a = true) (free : ∀ c ∈ w, isQuote c = false)
      (shape : b :: w = u ++ a :: v) : u = [] := by
    cases u with
    | nil => rfl
    | cons d u =>
      obtain rfl := (List.cons.inj shape).2
      rw [free a (List.mem_append_right u List.mem_cons_self)] at isA
      cases isA
  rcases List.append_eq_append_iff.mp same with ⟨u,rfl,shape⟩ | ⟨u,rfl,shape⟩
  · obtain rfl := within quote' none shape
    obtain ⟨rfl,rfl⟩ := List.cons.inj shape
    exact ⟨(List.append_nil x).symm,rfl,rfl⟩
  · obtain rfl := within quote none' shape
    obtain ⟨rfl,rfl⟩ := List.cons.inj shape
    exact ⟨List.append_nil x',rfl,rfl⟩

theorem skip_white (newline : Bool) {white : Text} (spaces : ∀ c ∈ white, isSpace c = true) (t : Text) :
    ∃ newline', skip .code newline (white ++ t) = skip .code newline' t := by
  induction white generalizing newline with
  | nil => exact ⟨newline,rfl⟩
  | cons c white ih =>
    have rest := fun d inside => spaces d (List.mem_cons_of_mem c inside)
    rw [List.cons_append,skip]
    split
    · exact ih true rest
    · rw [if_pos (spaces c List.mem_cons_self)]
      exact ih newline rest

/-- The bundle begins with a comment and an empty statement. -/
theorem skip_bundle (b : Bundle) (newline : Bool) (t : Text) :
    ∃ t', skip .code newline (b.text ++ t) = (true,';' :: t') := by
  obtain ⟨more,shape⟩ := b.opening
  have opening : ";(function () \x7b\n".toList = ';' :: "(function () \x7b\n".toList := by decide
  have begins : skip .code newline (moduleComment ++ [';']) = (true,[';']) := by
    cases newline <;> decide +kernel
  rw [← shape,bootstrap,opening,List.append_assoc,List.append_assoc,List.cons_append]
  exact ⟨_,skip_behind stops_semicolon _ [] _ begins⟩

theorem ends_bundle (b : Bundle) {between : Text} (fits : Gap between) (t : Text) :
    ends (between ++ (b.text ++ t)) = true := by
  obtain ⟨white,spaces,rfl | rfl⟩ := fits
  · obtain ⟨newline,skipped⟩ := skip_white false spaces (b.text ++ t)
    obtain ⟨t',begins⟩ := skip_bundle b newline t
    rw [ends,skipped,begins]
    rfl
  · rw [List.cons_append,ends,skip_stop stops_semicolon]
    rfl

theorem bundle_not_strict (b : Bundle) (t : Text) : isStrict (b.text ++ t) = false := by
  obtain ⟨more,shape⟩ := b.opening
  have plain : hashbang (b.text ++ t) = b.text ++ t := by
    rw [← shape,List.append_assoc,hashbang_append (by decide +kernel),show hashbang bootstrap = bootstrap by decide +kernel]
  obtain ⟨t',begins⟩ := skip_bundle b true t
  have other : isQuote ';' = false := by decide
  rw [isStrict,strictRests,plain,useStricts,begins]
  simp [other]

/-- What a task writes when there is a bundle for a worker. -/
def Task.writes (b : Bundle) : Task → List Write
  | .first data => inject b data
  | .later data => [.bytes data]
  | .close => []

/-- The tasks that events add. -/
def tasksOf : Bool → List Event → List Task
  | _,[] => []
  | first,.turn :: events => tasksOf first events
  | first,.data chunk :: events => (if first then .first chunk else .later chunk) :: tasksOf false events
  | first,.stop :: events => .close :: tasksOf first events

def arrivals (events : List Event) : List Event := events.filter (· ≠ .turn)

theorem tasksOf_arrivals (first : Bool) (events : List Event) : tasksOf first (arrivals events) = tasksOf first events := by
  induction events generalizing first with
  | nil => rfl
  | cons e events ih =>
    cases e with
    | turn => exact ih first
    | data chunk => exact congrArg ((if first then Task.first chunk else .later chunk) :: ·) (ih false)
    | stop => exact congrArg (Task.close :: ·) (ih first)

theorem tasksOf_later (later : List (List UInt8)) :
    tasksOf false (later.map .data ++ [.stop]) = later.map .later ++ [.close] := by
  induction later with
  | nil => rfl
  | cons chunk later ih => exact congrArg (Task.later chunk :: ·) ih

section
variable {a : Answers} {b : Bundle} (bundle : a.bundle = some (some b)) (scope : isWorkerScope a.dest = true)
include bundle scope

theorem turn_writes {f : Filter} {task : Task} {tasks : List Task} (going : f.rejected = false)
    (next : f.tasks = task :: tasks) : (f.turn a).firstChunk = f.firstChunk ∧ (f.turn a).tasks = tasks ∧
      (f.turn a).rejected = false ∧ (f.turn a).written = f.written ++ task.writes b := by
  rw [Filter.turn,next]
  dsimp only
  rw [going,if_neg Bool.false_ne_true,bundle]
  cases task with
  | first data =>
    dsimp only
    rw [if_pos scope]
    exact ⟨rfl,rfl,rfl,rfl⟩
  | later data => exact ⟨rfl,rfl,rfl,rfl⟩
  | close => exact ⟨rfl,rfl,rfl,(List.append_nil _).symm⟩

/-- What has been written is what the tasks write that have run, in the order of the arrivals. -/
theorem foldl_step_writes (events : List Event) (f : Filter) (going : f.rejected = false) :
    ∃ done, f.tasks ++ tasksOf f.firstChunk events = done ++ (events.foldl (Filter.step a) f).tasks ∧
      (events.foldl (Filter.step a) f).written = f.written ++ done.flatMap (Task.writes b) := by
  induction events generalizing f with
  | nil => exact ⟨[],List.append_nil _,(List.append_nil _).symm⟩
  | cons e events ih =>
    cases e with
    | data chunk =>
      have going' : (f.step a (.data chunk)).rejected = false := by
        rw [Filter.step]
        split <;> exact going
      obtain ⟨done,tasks,written⟩ := ih (f.step a (.data chunk)) going'
      refine ⟨done,?_,?_⟩
      · rw [List.foldl_cons,← tasks]
        cases first : f.firstChunk <;> simp [Filter.step,first,tasksOf]
      · rw [List.foldl_cons,written]
        cases first : f.firstChunk <;> simp [Filter.step,first]
    | stop =>
      obtain ⟨done,tasks,written⟩ := ih (f.step a .stop) going
      refine ⟨done,?_,written⟩
      rw [List.foldl_cons,← tasks]
      simp [Filter.step,tasksOf]
    | turn =>
      cases next : f.tasks with
      | nil =>
        have same : f.turn a = f := by rw [Filter.turn,next]
        obtain ⟨done,tasks,written⟩ := ih f going
        rw [List.foldl_cons,Filter.step,same]
        rw [next] at tasks
        exact ⟨done,tasks,written⟩
      | cons task rest =>
        obtain ⟨first,left,going',wrote⟩ := turn_writes bundle scope going next
        obtain ⟨done,tasks,written⟩ := ih (f.turn a) going'
        rw [first,left] at tasks
        rw [wrote] at written
        refine ⟨task :: done,congrArg (task :: ·) tasks,?_⟩
        rw [List.foldl_cons,Filter.step,written,List.append_assoc]
        rfl

/-- Whenever the tasks run: the bundle with the first chunk, then the others as they came. -/
theorem run_written {events : List Event} {first : List UInt8} {later : List (List UInt8)}
    (arrived : arrivals events = .data first :: (later.map .data ++ [.stop])) (settled : (run a events).tasks = []) :
    (run a events).written = inject b first ++ later.map .bytes := by
  obtain ⟨done,tasks,written⟩ := foldl_step_writes bundle scope events {} rfl
  have order := tasksOf_arrivals true events
  rw [arrived,tasksOf,if_pos rfl,tasksOf_later] at order
  rw [run] at settled
  rw [settled,List.append_nil,← order] at tasks
  have each (later : List (List UInt8)) : (later.map Task.later).flatMap (Task.writes b) = later.map .bytes := by
    induction later with
    | nil => rfl
    | cons chunk later ih => exact congrArg (Write.bytes chunk :: ·) ih
  rw [run,written,← tasks]
  simp [Task.writes,each]

end

/-- Where the search finds the directive, the first chunk is the UTF-8 of a text and the literal
    that is taken is a directive of the script; where it does not, the script has none. -/
def Sound (first later : List UInt8) : Prop :=
  if hasUseStrict (firstText first) then
    encode (firstText first) = first ∧ ∃ p ∈ position? (firstText first),
      (slices (p + 12) (firstText first)).2 ++ decode later ∈ strictRests (read (first ++ later))
  else isStrict (read (first ++ later)) = false

theorem read_encode {t : Text} (text : t ≠ []) (unmarked : t.head? ≠ some mark) (rest : List UInt8) :
    read (encode t ++ rest) = t ++ decode rest := by
  rw [read,decode_encode_append]
  cases t with
  | nil => exact absurd rfl text
  | cons c t => exact if_neg fun same => unmarked (congrArg some same)

/-- A text that the decoder gave of its own bytes has no mark. -/
theorem firstText_unmarked {first : List UInt8} (whole : encode (firstText first) = first) :
    (firstText first).head? ≠ some mark := by
  have given : firstText first = withoutMark (firstText first) := by
    have decoded := decodeFrom_encode (firstText first) []
    rw [List.append_nil,whole] at decoded
    conv_lhs => rw [firstText,Decoder.stream]
    dsimp only
    rw [decoded]
    simp [decodeFrom]
  intro marked
  rcases text : firstText first with _ | ⟨c,t⟩
  · rw [text] at marked
    cases marked
  · rw [text] at marked given
    rw [Option.some.inj marked,withoutMark,if_pos rfl] at given
    exact absurd (congrArg List.length given) (by simp)

theorem hasUseStrict_nonempty {str : Text} (found : hasUseStrict str = true) : str ≠ [] := by
  rintro rfl
  cases found

section
variable (b : Bundle) (first : List UInt8) (rest : List (List UInt8))

theorem original_later : original (rest.map .bytes) = rest.flatten := by
  induction rest with
  | nil => rfl
  | cons chunk rest ih => exact congrArg (chunk ++ ·) ih

theorem output_later : output (rest.map .bytes) = rest.flatten := by
  induction rest with
  | nil => rfl
  | cons chunk rest ih => exact congrArg (chunk ++ ·) ih

/-- In front of a script, the bundle ends its directives. -/
theorem injected_front : Injected (first ++ rest.flatten) ([.bundle b.text,.bytes first] ++ rest.map .bytes) ↔
    isStrict (read (first ++ rest.flatten)) = false := by
  have before : output ([.bundle b.text,.bytes first] ++ rest.map .bytes)
      = encode b.text ++ (first ++ rest.flatten) := by
    rw [← output_later]
    rfl
  have own : original ([.bundle b.text,.bytes first] ++ rest.map .bytes) = first ++ rest.flatten := by
    rw [← original_later]
    rfl
  have loose : isStrict (read (output ([.bundle b.text,.bytes first] ++ rest.map .bytes))) = false := by
    obtain ⟨more,shape⟩ := b.opening
    obtain ⟨c,t,plain,begins⟩ : ∃ c t, c ≠ mark ∧ b.text = c :: t := ⟨'/',_,by decide,shape.symm⟩
    rw [before,read_encode (by rw [begins]; exact List.cons_ne_nil c t)
      (by rw [begins]; exact fun same => plain (Option.some.inj same)),bundle_not_strict]
  constructor
  · intro injected
    rw [← injected.strict,loose]
  · intro never
    refine ⟨?_,own,.inl rfl,by rw [loose,never]⟩
    simp [List.countP_cons,Write.isBundle]

/-- Within a text, the bundle is where its front ends. -/
theorem injected_inside {body : List UInt8} {front back : Text} :
    Injected body ([.bytes (encode front),.bundle b.text,.bytes (encode back)] ++ rest.map .bytes) ↔
      encode front ++ (encode back ++ rest.flatten) = body ∧
        (encode front = [] ∨ BehindDirective body (encode front)) ∧
          isStrict (read (encode front ++ (encode b.text ++ (encode back ++ rest.flatten)))) = isStrict (read body) := by
  have own : original ([.bytes (encode front),.bundle b.text,.bytes (encode back)] ++ rest.map .bytes)
      = encode front ++ (encode back ++ rest.flatten) := by
    rw [← original_later]
    rfl
  have before : beforeBundle ([.bytes (encode front),.bundle b.text,.bytes (encode back)] ++ rest.map .bytes)
      = encode front := List.append_nil _
  have out : output ([.bytes (encode front),.bundle b.text,.bytes (encode back)] ++ rest.map .bytes)
      = encode front ++ (encode b.text ++ (encode back ++ rest.flatten)) := by
    rw [← output_later]
    rfl
  constructor
  · intro injected
    exact ⟨own ▸ injected.original,before ▸ injected.place,out ▸ injected.strict⟩
  · rintro ⟨whole,place,strict⟩
    exact ⟨by simp [List.countP_cons,Write.isBundle],own.trans whole,by rwa [before],by rwa [out]⟩

/-- A literal that is a directive is a place for the bundle. -/
theorem injected_of_directive {pre after : Text} {q : Char}
    (unmarked : (pre ++ literal q ++ after).head? ≠ some mark)
    (directive : after ++ decode rest.flatten ∈ strictRests (pre ++ literal q ++ after ++ decode rest.flatten)) :
    Injected (encode (pre ++ literal q ++ after) ++ rest.flatten) ([.bytes (encode (pre ++ literal q ++ gap after)),
      .bundle b.text,.bytes (encode (after.drop (gap after).length))] ++ rest.map .bytes) := by
  have text {t : Text} : pre ++ literal q ++ t ≠ [] := by simp [literal]
  have unmarked' {t : Text} : (pre ++ literal q ++ t).head? ≠ some mark := by
    cases pre <;> exact unmarked
  have body : read (encode (pre ++ literal q ++ after) ++ rest.flatten) = pre ++ literal q ++ (after ++ decode rest.flatten) := by
    rw [read_encode text unmarked,List.append_assoc _ after]
  rw [List.append_assoc _ after] at directive
  refine (injected_inside b rest).mpr ⟨?_,.inr ⟨pre ++ literal q,gap after,after.drop (gap after).length ++ decode rest.flatten,
    gap_isGap after,?_,?_,rfl⟩,?_⟩
  · rw [← List.append_assoc,← encode_append,List.append_assoc _ (gap after),gap_append]
  · rw [body,← List.append_assoc (gap after),gap_append]
  · rw [body,← List.append_assoc (gap after),gap_append]
    exact directive
  · have out : read (encode (pre ++ literal q ++ gap after) ++ (encode b.text ++
          (encode (after.drop (gap after).length) ++ rest.flatten)))
        = pre ++ literal q ++ (gap after ++ (b.text ++ (after.drop (gap after).length ++ decode rest.flatten))) := by
      rw [read_encode text unmarked',decode_encode_append,decode_encode_append,List.append_assoc _ (gap after)]
    have longer : (after ++ decode rest.flatten).length
        ≤ (gap after ++ (b.text ++ (after.drop (gap after).length ++ decode rest.flatten))).length := by
      have same := congrArg List.length (gap_append after)
      simp only [List.length_append] at same ⊢
      omega
    have inside := strictRests_behind directive (ends_bundle b (gap_isGap after) _) longer
    rw [out,body,isStrict,isStrict,List.isEmpty_eq_false_iff.mpr (List.ne_nil_of_mem inside),
      List.isEmpty_eq_false_iff.mpr (List.ne_nil_of_mem directive)]

/-- The place behind a directive is the one that the search takes for it. -/
theorem directive_of_behind {pre after : Text} {q : Char} (quote : isQuote q = true)
    (unmarked : (pre ++ literal q ++ after).head? ≠ some mark)
    (behind : BehindDirective (encode (pre ++ literal q ++ after) ++ rest.flatten) (encode (pre ++ literal q ++ gap after))) :
    after ++ decode rest.flatten ∈ strictRests (pre ++ literal q ++ after ++ decode rest.flatten) := by
  obtain ⟨before,between,left,fits,shape,directive,front⟩ := behind
  have body : read (encode (pre ++ literal q ++ after) ++ rest.flatten)
      = pre ++ literal q ++ after ++ decode rest.flatten := read_encode (by simp [literal]) unmarked _
  rw [body] at shape directive
  rw [shape] at directive ⊢
  obtain ⟨-,pre',q',quote',rfl⟩ := strictRests_text directive
  have same : (pre ++ q :: "use strict".toList) ++ q :: gap after
      = (pre' ++ q' :: "use strict".toList) ++ q' :: between := by
    have texts := encode_inj front
    simpa [literal] using texts
  obtain ⟨texts,rfl,rfl⟩ := last_quote quote quote' (gap_isGap after).unquoted fits.unquoted same
  have literals : pre ++ literal q = pre' ++ q :: ("use strict".toList ++ [q]) := by
    have whole := congrArg (· ++ [q]) texts
    simpa [literal] using whole
  rw [← literals,List.append_assoc _ after] at shape
  rwa [List.append_cancel_left shape]

end

/-- Where nothing is found, no part of the text in front is a directive. -/
theorem missing_not_behind {str : Text} {body : List UInt8} (missing : position? str = none) (found : hasUseStrict str = true) :
    ¬ (encode (cut str).1 = [] ∨ BehindDirective body (encode (cut str).1)) := by
  rw [cut,missing]
  dsimp only [Option.elim]
  rintro (empty | ⟨before,between,left,fits,shape,directive,front⟩)
  · have nothing := List.append_eq_nil_iff.mp (encode_inj (show _ = encode [] from empty))
    exact slices_nonempty (by decide) (hasUseStrict_nonempty found) nothing.1
  · rw [shape] at directive
    obtain ⟨-,pre,q,quote,rfl⟩ := strictRests_text directive
    have texts : (slices 11 str).1 ++ gap (slices 11 str).2 = pre ++ literal q ++ between := encode_inj front
    rcases slices_cut 11 str with whole | ⟨u,v,left',right⟩
    · -- the text in front is a part of the text
      have inside : literal q <:+: str := by
        refine ⟨pre,between ++ (slices 11 str).2.drop (gap (slices 11 str).2).length,?_⟩
        rw [← List.append_assoc (pre ++ literal q),← texts,List.append_assoc,gap_append]
        exact whole.symm
      exact position?_none missing quote inside
    · -- it ends with half a character
      have none : gap (replacement :: v) = [] := by
        have plain : isSpace replacement = false := by decide
        simp [gap,plain,show replacement ≠ ';' by decide]
      rw [left',right,none,List.append_nil] at texts
      have last : (q :: between).getLast? = some replacement := by
        have ends' : (u ++ [replacement]).getLast? = ((pre ++ q :: "use strict".toList) ++ q :: between).getLast? := by
          rw [texts]
          simp [literal]
        rwa [List.getLast?_concat,List.getLast?_append_cons,eq_comm] at ends'
      have plain : ∀ c ∈ q :: between, c ≠ replacement := by
        intro c inside same
        obtain rfl := same
        rcases List.mem_cons.mp inside with rfl | among
        · exact absurd quote (by decide)
        · obtain ⟨white,spaces,rfl | rfl⟩ := fits
          · exact absurd (spaces _ among) (by decide)
          · rcases List.mem_cons.mp among with same | among
            · exact absurd same (by decide)
            · exact absurd (spaces _ among) (by decide)
      exact plain _ (List.mem_of_getLast? last) rfl

/-- What is written is right just when the place is sound. -/
theorem inject_iff (b : Bundle) (first : List UInt8) (rest : List (List UInt8)) :
    Injected (first ++ rest.flatten) (inject b first ++ rest.map .bytes) ↔ Sound first rest.flatten := by
  rw [inject,Sound]
  split_ifs with found
  · cases position : position? (firstText first) with
    | none =>
      constructor
      · intro injected
        exact absurd ((injected_inside b rest).mp injected).2.1 (missing_not_behind position found)
      · rintro ⟨-,p,some,-⟩
        cases some
    | some p =>
      obtain ⟨pre,q,after,quote,text,sliced⟩ := position?_some position
      have cuts : cut (firstText first) = (pre ++ literal q ++ gap after,after.drop (gap after).length) := by
        rw [cut,position]
        dsimp only [Option.elim]
        rw [sliced]
      have joined : pre ++ literal q ++ gap after ++ after.drop (gap after).length = firstText first := by
        rw [List.append_assoc,gap_append,text]
      constructor
      · intro injected
        obtain ⟨bytes,place,-⟩ := (injected_inside b rest).mp injected
        rw [← List.append_assoc,← encode_append,cuts,joined] at bytes
        have whole := List.append_cancel_right bytes
        have unmarked := firstText_unmarked whole
        rw [text] at unmarked whole
        refine ⟨by rw [text]; exact whole,p,rfl,?_⟩
        rw [cuts] at place
        rw [sliced]
        rcases place with empty | behind
        · exact absurd (encode_inj (show _ = encode [] from empty)) (by simp [literal])
        · rw [← whole] at behind ⊢
          rw [read_encode (by simp [literal]) unmarked]
          exact directive_of_behind rest quote unmarked behind
      · rintro ⟨whole,p',same,directive⟩
        obtain rfl := Option.some.inj same
        have unmarked := firstText_unmarked whole
        rw [sliced] at directive
        rw [cuts]
        rw [text] at unmarked whole
        rw [← whole] at directive ⊢
        rw [read_encode (by simp [literal]) unmarked] at directive
        exact injected_of_directive b rest unmarked directive
  · exact injected_front b first rest

/-- In every run of the filter that has come to its end. -/
theorem injected_iff {a : Answers} {b : Bundle} (bundle : a.bundle = some (some b)) (scope : isWorkerScope a.dest = true)
    {events : List Event} {first : List UInt8} {later : List (List UInt8)}
    (arrived : arrivals events = .data first :: (later.map .data ++ [.stop])) (settled : (run a events).tasks = []) :
    Injected (first ++ later.flatten) (run a events).written ↔ Sound first later.flatten := by
  rw [run_written bundle scope arrived settled]
  exact inject_iff b first later

def opening : Bundle := ⟨bootstrap,List.prefix_rfl⟩

def worker : Answers := ⟨some "worker",some (some opening)⟩

def halves : List Event :=
  [.data (encode "'use strict';\nf(".toList),.turn,.data (encode "0)".toList),.stop,.turn,.turn]

theorem injected_strict : Injected (encode "'use strict';\nf(0)".toList) (run worker halves).written := by
  have arrived : arrivals halves
      = .data (encode "'use strict';\nf(".toList) :: ([encode "0)".toList].map .data ++ [.stop]) := by decide +kernel
  have settled : (run worker halves).tasks = [] := by decide +kernel
  have sound : Sound (encode "'use strict';\nf(".toList) [encode "0)".toList].flatten := by
    rw [Sound,if_pos (by decide +kernel)]
    exact ⟨by decide +kernel,0,by decide +kernel,by decide +kernel⟩
  have body : encode "'use strict';\nf(".toList ++ [encode "0)".toList].flatten = encode "'use strict';\nf(0)".toList := by
    decide +kernel
  rw [← body]
  exact (injected_iff (show worker.bundle = some (some opening) from rfl) rfl arrived settled).mpr sound

def commented : List UInt8 := encode "/* \"use strict\" */\n'use strict';\nf()".toList

/-- The literal that is taken is in a comment, and so is the beginning of the bundle then. -/
theorem commented_not_injected :
    ¬ Injected commented (run worker [.data commented,.stop,.turn,.turn]).written := by
  intro injected
  have loose : isStrict (read (output (run worker [.data commented,.stop,.turn,.turn]).written)) = false := by
    decide +kernel
  have strict : isStrict (read commented) = true := by decide +kernel
  rw [injected.strict,strict] at loose
  cases loose

end FFWebHid.WorkerInjection
