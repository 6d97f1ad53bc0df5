import FFWebHid.Maps
import FFWebHid.Runs

/-!
The `hid` feature of frame documents: what the background page reads from the
Permissions-Policy headers of a document, what it records of frames and of their
delegation, and what it answers about a document. The source is `webrequest.js` and
the policy handlers of `messages.js`; the URL parser of the browser is a parameter.
-/
namespace FFWebHid.Policies
open FFWebHid.Maps

/-- White space and line ends of JavaScript, as `trim` and `\s` know them. -/
def isSpace (c : Char) : Bool :=
  [0x9,0xA,0xB,0xC,0xD,0x20,0xA0,0x1680,0x2028,0x2029,0x202F,0x205F,0x3000,0xFEFF].contains c.toNat ||
    (0x2000 ≤ c.toNat && c.toNat ≤ 0x200A)

def trim (text : List Char) : List Char := ((text.dropWhile isSpace).reverse.dropWhile isSpace).reverse

/-- The pieces of a text between the characters that separate. -/
def splitBy (separates : Char → Bool) : List Char → List (List Char)
  | [] => [[]]
  | c :: rest =>
    if separates c then [] :: splitBy separates rest
    else match splitBy separates rest with
      | [] => [[c]]
      | piece :: pieces => (c :: piece) :: pieces

/-- The words of a text, between runs of white space. -/
def words (text : List Char) : List (List Char) := (splitBy isSpace text).filter (· ≠ [])

/-- A single or a double quote. -/
def isQuote (c : Char) : Bool := c.toNat == 0x27 || c.toNat == 0x22

theorem isQuote_iff {q : Char} : isQuote q = true ↔ q = '\'' ∨ q = '"' := by
  rw [isQuote,Bool.or_eq_true,beq_iff_eq,beq_iff_eq]
  exact or_congr (Char.toNat_inj (d := '\'')) (Char.toNat_inj (d := '"'))

/-- One quote is taken off at each end. -/
def unquote (raw : List Char) : List Char :=
  let opened := match raw with
    | c :: rest => if isQuote c then rest else raw
    | [] => []
  match opened.reverse with
  | c :: rest => if isQuote c then rest.reverse else opened
  | [] => []

/-- The allowlists that a declaration describes: `kind` and `origins`. -/
inductive Allowlist where
  | all
  | none
  | list (origins : List String)
  deriving DecidableEq, Repr

/-- The URL parser: the origin of a text, if it is a URL. -/
structure Urls where
  origin : String → Option String

def Urls.urlOrigin (urls : Urls) (url : String) : String := (urls.origin url).getD ""

/-- The words of a declaration in parentheses: the origins so far, and whether `*`
    and `self` were among them. -/
def readTokens (urls : Urls) : List String → List String × Bool × Bool → List String × Bool × Bool
  | [],seen => seen
  | token :: rest,(origins,star,self) =>
    if token = "*" then readTokens urls rest (origins,true,self)
    else if token = "self" then readTokens urls rest (origins,star,true)
    else match urls.origin token with
      | some origin =>
        if origin ≠ "null" ∧ origin ∉ origins then readTokens urls rest (origins ++ [origin],star,self)
        else readTokens urls rest (origins,star,self)
      | none => readTokens urls rest (origins,star,self)

def parseHidPolicy (urls : Urls) (value : List Char) : Allowlist :=
  let v := trim value
  if v = ['*'] then .all
  else if v = "self".toList then .list ["self"]
  else if v.head? ≠ some '(' ∨ v.getLast? ≠ some ')' then .none
  else
    let inner := trim (v.drop 1).dropLast
    if inner = [] then .none
    else
      let tokens := (words inner).map fun raw => String.ofList (unquote raw)
      let (origins,star,self) := readTokens urls tokens ([],false,false)
      if star then .all
      else
        let origins := if self then origins ++ ["self"] else origins
        if origins = [] then .none else .list origins

/-- Deny dominates. -/
def intersectAllowlists : Allowlist → Allowlist → Allowlist
  | .none,_ => .none
  | _,.none => .none
  | .all,b => b
  | a,.all => a
  | .list a,.list b =>
    let origins := a.filter fun o => b.contains o
    if origins = [] then .none else .list origins

def listAllows : Allowlist → String → Bool
  | .all,_ => true
  | .none,_ => false
  | .list origins,origin => origins.contains origin

/-- The value of a declaration of the feature, if it is one. -/
def hidDeclaration (raw : List Char) : Option (List Char) :=
  match raw.span (· ≠ '=') with
  | (feature,_ :: value) => if (trim feature).map Char.toLower = "hid".toList then some value else none
  | (_,[]) => none

structure Header where
  name : String
  value : String
  deriving DecidableEq, Repr

/-- All declarations of the feature in the headers of a response. -/
def declarations (urls : Urls) (headers : List Header) : List Allowlist :=
  ((headers.filter fun h => h.name.toList.map Char.toLower = "permissions-policy".toList).flatMap fun h =>
    (splitBy (· == ',') h.value.toList).filterMap hidDeclaration).map (parseHidPolicy urls)

/-- The policy that a document declares for itself; `self` stands for its origin. -/
def ownPolicy (urls : Urls) (origin : String) (headers : List Header) : Allowlist :=
  match declarations urls headers with
  | [] => .all
  | first :: rest =>
    match rest.foldl intersectAllowlists first with
    | .list origins => .list (origins.map fun o => if o = "self" then origin else o)
    | other => other

/-! ### Records -/

/-- `documentFrameKey`. -/
structure DocumentKey where
  tabId : Nat
  frameId : Nat
  documentId : String
  deriving DecidableEq, Repr

structure PolicyEntry where
  tabId : Nat
  frameId : Nat
  documentId : String
  origin : String
  url : String
  parentFrameId : Option Nat
  parentDocumentId : String
  parentKey : Option DocumentKey
  self : Allowlist
  effective : Allowlist
  deriving DecidableEq, Repr

/-- The maps `permissionsPolicy` and `frameDelegations`. -/
structure PolicyStore where
  permissionsPolicy : HashMap DocumentKey PolicyEntry := ∅
  frameDelegations : HashMap DocumentKey Bool := ∅

/-- What `onHeadersReceived` tells of a document. Without a parent frame the number
    of the parent is -1; an identifier that the browser does not give is empty. -/
structure Details where
  tabId : Nat
  frameId : Nat
  documentId : String
  parentFrameId : Option Nat
  parentDocumentId : String
  url : String
  responseHeaders : List Header

def Details.key (d : Details) : DocumentKey := ⟨d.tabId,d.frameId,d.documentId⟩

def Details.parentKey (d : Details) : Option DocumentKey :=
  d.parentFrameId.bind fun frame =>
    if d.parentDocumentId = "" then none else some ⟨d.tabId,frame,d.parentDocumentId⟩

/-- The record of a frame whose document the browser has not named yet. -/
def DocumentKey.pending (key : DocumentKey) : DocumentKey := { key with documentId := "" }

/-- Move the pending record of a frame to the document that it turns out to be. -/
def PolicyStore.adopt (s : PolicyStore) (key : DocumentKey) (entry : PolicyEntry) : PolicyStore :=
  { s with permissionsPolicy :=
      (s.permissionsPolicy.erase key.pending).insert key { entry with documentId := key.documentId } }

/-- The record of a parent document, its own or the pending one of its frame. -/
def PolicyStore.parentRecord (s : PolicyStore) (key : DocumentKey) : Option PolicyEntry × PolicyStore :=
  match s.permissionsPolicy.lookup key with
  | some parent => (some parent,s)
  | none =>
    match s.permissionsPolicy.lookup key.pending with
    | some parent => (some { parent with documentId := key.documentId },s.adopt key parent)
    | none => (none,s)

/-- The effective policy of a document below a parent. -/
def inherit (self : Allowlist) (parent : Option PolicyEntry) (origin : String) : Allowlist :=
  if listAllows ((parent.map (·.effective)).getD .all) origin then self else .none

def PolicyStore.storePermissionsPolicy (urls : Urls) (s : PolicyStore) (d : Details) : PolicyStore :=
  let origin := urls.urlOrigin d.url
  let self := ownPolicy urls origin d.responseHeaders
  let (effective,s) :=
    if self = .none then (self,s)
    else match d.parentKey with
      | none => (inherit self none origin,s)
      | some key => let (parent,s) := s.parentRecord key; (inherit self parent origin,s)
  let entry : PolicyEntry :=
    { tabId := d.tabId, frameId := d.frameId, documentId := d.documentId, origin := origin, url := d.url
      parentFrameId := d.parentFrameId, parentDocumentId := d.parentDocumentId, parentKey := d.parentKey
      self := self, effective := effective }
  { s with permissionsPolicy := s.permissionsPolicy.insert d.key entry }

/-- Drop what is recorded of the selected documents. -/
def PolicyStore.clear (s : PolicyStore) (selected : DocumentKey → Bool) : PolicyStore :=
  ⟨retain s.permissionsPolicy fun key _ => !selected key,retain s.frameDelegations fun key _ => !selected key⟩

def PolicyStore.clearPolicyFrame (s : PolicyStore) (tabId frameId : Nat) : PolicyStore :=
  s.clear fun key => key.tabId == tabId && key.frameId == frameId

def PolicyStore.clearPolicyTab (s : PolicyStore) (tabId : Nat) : PolicyStore := s.clear fun key => key.tabId == tabId

/-- The fields of a request that the policy handlers read. One that is absent or of
    the wrong type is `none` or empty. -/
structure Request where
  frameId : Option Nat := none
  documentId : String := ""
  origin : String := ""
  bridgeInstanceId : Option String := none
  delegated : Bool := false

/-- Where the browser says that a request comes from. -/
structure Sender where
  tabId : Option Nat
  frameId : Option Nat
  documentId : String

/-- The document that a request is about: the one it names, or that of the sender. -/
def resolve (request : Request) (sender : Sender) : Option DocumentKey :=
  sender.tabId.bind fun tab => (request.frameId.or sender.frameId).bind fun frame =>
    let document := if request.documentId ≠ "" then request.documentId
      else if some frame = sender.frameId then sender.documentId else ""
    if document = "" then none else some ⟨tab,frame,document⟩

def PolicyStore.policyEntryForDocument (s : PolicyStore) (key : DocumentKey) (origin : String) :
    Option PolicyEntry × PolicyStore :=
  match s.permissionsPolicy.lookup key with
  | some entry => (if entry.origin = origin then some entry else none,s)
  | none =>
    match s.permissionsPolicy.lookup key.pending with
    | some entry =>
      if entry.origin = origin then (some { entry with documentId := key.documentId },s.adopt key entry)
      else (none,s)
    | none => (none,s)

/-- The frame got the feature from the document that embeds it: it is a top frame, or
    its parent is recorded and of its origin or delegated to it. -/
def PolicyStore.delegatedTo (s : PolicyStore) (key : DocumentKey) (entry : PolicyEntry) : Bool :=
  match entry.parentFrameId with
  | none => true
  | some _ =>
    match entry.parentKey.bind fun parent => s.permissionsPolicy.lookup parent with
    | none => false
    | some parent =>
      parent.origin != "" && (parent.origin == entry.origin || s.frameDelegations.lookup key == some true)

/-- `policyForRequest`: whether the answer is `allowed`. -/
def PolicyStore.policyForRequest (urls : Urls) (s : PolicyStore) (request : Request) (sender : Sender) : Bool × PolicyStore :=
  match resolve request sender with
  | none => (false,s)
  | some key =>
    let requestedOrigin := urls.urlOrigin request.origin
    if requestedOrigin = "" then (false,s)
    else
      let (entry,s) := s.policyEntryForDocument key requestedOrigin
      match entry with
      | none => (false,s)
      | some entry => (s.delegatedTo key entry && listAllows entry.effective entry.origin,s)

/-- `handleSetFrameDelegation`: whether it was recorded. -/
def PolicyStore.handleSetFrameDelegation (urls : Urls) (s : PolicyStore) (request : Request) (sender : Sender) :
    Bool × PolicyStore :=
  match request.bridgeInstanceId,resolve request sender with
  | some _,some key =>
    let origin := urls.urlOrigin request.origin
    if origin = "" then (false,s)
    else
      let (entry,s) := s.policyEntryForDocument key origin
      match entry with
      | none => (false,s)
      | some _ => (true,{ s with frameDelegations := s.frameDelegations.insert key request.delegated })
  | _,_ => (false,s)

/-- What `handleFrameDestroyed` forgets of the document. -/
def PolicyStore.frameDestroyed (s : PolicyStore) (request : Request) (sender : Sender) : PolicyStore :=
  match resolve request sender with
  | some key => ⟨s.permissionsPolicy.erase key,s.frameDelegations.erase key⟩
  | none => s

inductive Event where
  | beforeRequest (mainFrame : Bool) (tabId frameId : Nat)
  | headersReceived (details : Details)
  | setFrameDelegation (request : Request) (sender : Sender)
  | getPolicy (request : Request) (sender : Sender)
  | frameDestroyed (request : Request) (sender : Sender)

def step (urls : Urls) (s : PolicyStore) : Event → Option PolicyStore
  | .beforeRequest true tabId _ => some (s.clearPolicyTab tabId)
  | .beforeRequest false tabId frameId => some (s.clearPolicyFrame tabId frameId)
  | .headersReceived details => some (s.storePermissionsPolicy urls details)
  | .setFrameDelegation request sender => some (s.handleSetFrameDelegation urls request sender).2
  | .getPolicy request sender => some (s.policyForRequest urls request sender).2
  | .frameDestroyed request sender => some (s.frameDestroyed request sender)

end FFWebHid.Policies
