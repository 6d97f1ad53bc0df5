import Mathlib.Data.List.TakeWhile
import FFWebHid.Safety
import FFWebHid.Utf8

/-! How a data plane gets in: the hash that the bridge makes of a session's token, the upgrade request of a WebSocket
and the path of a WebTransport session, and what the daemon makes of them in any of its states. -/

namespace FFWebHid.PlaneHandshake
open FFWebHid.Types FFWebHid.Descriptor FFWebHid.Registry FFWebHid.Threads FFWebHid.Safety FFWebHid.Utf8

/-- SHA-256, of which the code knows the length of the digest. -/
structure Sha256 where
  digest : List UInt8 → List UInt8
  size : ∀ bytes, (digest bytes).length = 32

def hexTable : List Char := "0123456789abcdef".toList

/-- `hex::encode`. -/
def hexEncode (bytes : List UInt8) : List Char :=
  bytes.flatMap (fun b => [hexTable.getD (b.toNat / 16) ' ',hexTable.getD (b.toNat % 16) ' '])

/-- A daemon whose hashes are made by `sha2` and `hex`. -/
def daemonOf (sha : Sha256) (tryFrom : List UInt8 → Option ReportDescriptor) (wsNonce : String) : Daemon where
  lib :=
    { tryFrom := tryFrom
      sha256Hex := fun text => String.ofList (hexEncode (sha.digest (encode text.toList))) }
  wsNonce := wsNonce

def padStart (length : Nat) (fill : Char) (text : List Char) : List Char :=
  List.replicate (length - text.length) fill ++ text

/-- The bridge's `computeWsAuthHash`; `toString(16)` writes the digits of a number. -/
def computeWsAuthHash (sha : Sha256) (wsNonce : Option String) (sessionToken : String) : Option String :=
  match wsNonce with
  | none => none
  | some nonce =>
    if nonce = "" ∨ sessionToken = "" then none
    else
      let digest := sha.digest (encode (sessionToken ++ nonce).toList)
      some (String.ofList (digest.flatMap (fun b => padStart 2 '0' (Nat.toDigits 16 b.toNat))))

def isBlank (c : Char) : Bool := c == ' ' || c == '\t'

/-- `trim`, of a header's text. -/
def trim (text : List Char) : List Char := ((text.dropWhile isBlank).reverse.dropWhile isBlank).reverse

def isLoopbackHost (host : List Char) : Bool :=
  match trim host with
  | [] => false
  | '[' :: rest => rest.takeWhile (· != ']') == "::1".toList
  | h =>
    let hostname := h.takeWhile (· != ':')
    hostname.map Char.toLower == "localhost".toList || hostname == "127.0.0.1".toList

abbrev HeaderValue := List UInt8

/-- `to_str`: only visible characters and blanks. -/
def toStr (value : HeaderValue) : Option (List Char) :=
  if value.all (fun b => b == 9 || 32 ≤ b && b < 127) then some (value.map (fun b => Char.ofNat b.toNat)) else none

/-- The first header of each name that is read, and whether the rest is an upgrade. -/
structure Request where
  upgrade : Bool
  host : Option HeaderValue
  protocol : Option HeaderValue

def stripPrefix (text beginning : List Char) : Option (List Char) :=
  if beginning.isPrefixOf text then some (text.drop beginning.length) else none

/-- The host of a request, as far as it can be read. -/
def hostText (req : Request) : List Char := (req.host.bind toStr).getD []

/-- The hash and the subprotocol of the response; a host that is not of this machine is answered with 403. -/
def wsAcceptCallback (req : Request) : Except Nat (Option (List Char) × Option HeaderValue) :=
  if isLoopbackHost (hostText req) then
    .ok ((req.protocol.bind toStr).bind (stripPrefix · "webhid.".toList),req.protocol)
  else .error 403

def isAsciiHexdigit (c : Char) : Bool := '0' ≤ c && c ≤ '9' || 'a' ≤ c && c ≤ 'f' || 'A' ≤ c && c ≤ 'F'

def isValidAuthHash (hash : List Char) : Bool := (encode hash).length == 64 && hash.all isAsciiHexdigit

/-- What becomes of a connection. -/
inductive Verdict where
  | dropped (status : Option Nat)
  | closed (code : Nat) (reason : String)
  | authenticated (deviceId : DeviceId) (token : Token)
  deriving DecidableEq

def wsCloseUnknownToken : Nat := 4401
def wsCloseBadToken : Nat := 4402

def wsAuthenticate (req : Request) : Except Verdict (List Char) :=
  if req.upgrade then
    match wsAcceptCallback req with
    | .error status => .error (.dropped (some status))
    | .ok (some hash,_) =>
      if isValidAuthHash hash then .ok hash else .error (.closed wsCloseBadToken "bad token")
    | .ok (none,_) => .error (.closed wsCloseBadToken "no token")
  else .error (.dropped none)

/-- `handle_websocket`, as far as the connection is not one of a session yet. -/
def handleWebsocket (m : DeviceManager) (req : Request) : Verdict :=
  match wsAuthenticate req with
  | .error verdict => verdict
  | .ok hash =>
    match m.getDeviceByWsAuth (String.ofList hash) with
    | some (deviceId,token) => .authenticated deviceId token
    | none => .closed wsCloseUnknownToken "unknown token"

/-- `handle_session`, likewise. -/
def handleSession (m : DeviceManager) (path : List Char) : Verdict :=
  let hash := path.dropWhile (· == '/')
  if isValidAuthHash hash then
    match m.getDeviceByWsAuth (String.ofList hash) with
    | some (deviceId,token) => .authenticated deviceId token
    | none => .dropped (some 404)
  else .dropped (some 404)

def ascii (text : List Char) : HeaderValue := text.map (fun c => UInt8.ofNat c.toNat)

/-- What the browser sends for `new WebSocket('ws://127.0.0.1:' + wsPort, ['webhid.' + token])`; it leaves out the port
    that the scheme has anyway. -/
def wsRequest (wsPort : UInt16) (token : String) : Request where
  upgrade := true
  host := some (ascii ("127.0.0.1".toList ++ if wsPort = 80 then [] else ':' :: Nat.toDigits 10 wsPort.toNat))
  protocol := some (ascii ("webhid.".toList ++ token.toList))

/-- The path of `'https://127.0.0.1:' + wtPort + '/' + token`. -/
def wtPath (token : String) : List Char := '/' :: token.toList

/-! ### Both sides make the same hash -/

section Hashes
variable (sha : Sha256) (tryFrom : List UInt8 → Option ReportDescriptor) (nonce : String)

theorem hexDigits_eq (b : UInt8) : padStart 2 '0' (Nat.toDigits 16 b.toNat) =
    [hexTable.getD (b.toNat / 16) ' ',hexTable.getD (b.toNat % 16) ' '] := by
  have all : ∀ n < 256, padStart 2 '0' (Nat.toDigits 16 n) = [hexTable.getD (n / 16) ' ',hexTable.getD (n % 16) ' '] := by
    decide +kernel
  exact all b.toNat b.toNat_lt

/-- The hash that the bridge makes is the daemon's. -/
theorem hash_agrees {sessionToken hash : String} (made : computeWsAuthHash sha (some nonce) sessionToken = some hash) :
    hash = (daemonOf sha tryFrom nonce).computeWsAuthHash sessionToken := by
  unfold computeWsAuthHash at made
  simp only [hexDigits_eq] at made
  split at made
  · cases made
  · cases made
    rfl

theorem mem_hexEncode {bytes : List UInt8} {c : Char} (member : c ∈ hexEncode bytes) :
    c.toNat < 0x80 ∧ isAsciiHexdigit c = true := by
  have all : ∀ n < 16, (hexTable.getD n ' ').toNat < 0x80 ∧ isAsciiHexdigit (hexTable.getD n ' ') = true := by
    decide +kernel
  obtain ⟨b,_,digit⟩ := List.mem_flatMap.mp member
  have wide := b.toNat_lt
  simp only [List.mem_cons,List.not_mem_nil,or_false] at digit
  rcases digit with rfl | rfl
  · exact all _ (by omega)
  · exact all _ (by omega)

theorem encode_ascii {text : List Char} (plain : ∀ c ∈ text, c.toNat < 0x80) : (encode text).length = text.length := by
  induction text with
  | nil => rfl
  | cons c text ih =>
    have first : encodeChar c = [UInt8.ofNat c.toNat] := by
      unfold encodeChar
      simp [plain c List.mem_cons_self]
    have later := ih (fun d member => plain d (List.mem_cons_of_mem _ member))
    simp only [encode,List.flatMap_cons,first,List.length_append,List.length_cons,List.length_nil] at later ⊢
    omega

theorem hash_valid (sessionToken : String) :
    isValidAuthHash ((daemonOf sha tryFrom nonce).computeWsAuthHash sessionToken).toList = true := by
  have size (bytes : List UInt8) : (hexEncode bytes).length = 2 * bytes.length := by
    induction bytes with
    | nil => rfl
    | cons b bytes ih =>
      simp only [hexEncode,List.flatMap_cons,List.length_append,List.length_cons,List.length_nil] at ih ⊢
      omega
  simp only [Daemon.computeWsAuthHash,daemonOf,String.toList_ofList,isValidAuthHash,Bool.and_eq_true,beq_iff_eq,
    List.all_eq_true]
  refine ⟨?_,fun c member => (mem_hexEncode member).2⟩
  rw [encode_ascii (fun c member => (mem_hexEncode member).1),size,sha.size]

end Hashes

theorem toStr_ascii {text : List Char} (visible : ∀ c ∈ text, 32 ≤ c.toNat ∧ c.toNat < 127) :
    toStr (ascii text) = some text := by
  have byte (c : Char) (member : c ∈ text) : (UInt8.ofNat c.toNat).toNat = c.toNat := by
    have range := visible c member
    rw [UInt8.toNat_ofNat']
    omega
  have all : (ascii text).all (fun b => b == 9 || 32 ≤ b && b < 127) = true := by
    rw [List.all_eq_true]
    intro b member
    obtain ⟨c,inText,rfl⟩ := List.mem_map.mp member
    have range := visible c inText
    have same := byte c inText
    simp only [Bool.or_eq_true,Bool.and_eq_true,decide_eq_true_eq,UInt8.le_iff_toNat_le,UInt8.lt_iff_toNat_lt,same]
    exact .inr range
  have back : (ascii text).map (fun b => Char.ofNat b.toNat) = text := by
    rw [ascii,List.map_map]
    calc text.map ((fun b => Char.ofNat b.toNat) ∘ fun c => UInt8.ofNat c.toNat) = text.map id := by
          apply List.map_congr_left
          intro c member
          simp only [Function.comp_apply,byte c member,Char.ofNat_toNat,id_eq]
      _ = text := List.map_id text
  rw [toStr,if_pos all,back]

theorem ascii_of_toStr {value : HeaderValue} {text : List Char} (readable : toStr value = some text) :
    value = ascii text := by
  unfold toStr at readable
  split at readable
  · cases readable
    have all : ∀ n < 256, (Char.ofNat n).toNat = n := by decide +kernel
    have small (b : UInt8) : (Char.ofNat b.toNat).toNat = b.toNat := all b.toNat b.toNat_lt
    rw [ascii,List.map_map]
    calc value = value.map id := (List.map_id value).symm
      _ = _ := by
        apply List.map_congr_left
        intro b _
        simp only [Function.comp_apply,small,UInt8.ofNat_toNat,id_eq]
  · cases readable

/-- A host that a header may name, and its port. -/
inductive Host where
  | name (text : List Char)
  | literal (text : List Char)

structure Authority where
  host : Host
  port : Option (List Char)

/-- Names have no colons, brackets or blanks, literals no closing bracket, and ports are numbers. -/
def Host.WellFormed : Host → Prop
  | .name text => ∀ c ∈ text, c ∉ [':','[',']',' ','\t']
  | .literal text => ']' ∉ text

def Authority.WellFormed (a : Authority) : Prop := a.host.WellFormed ∧ ∀ port, a.port = some port → ∀ c ∈ port, c.isDigit

def Host.text : Host → List Char
  | .name text => text
  | .literal text => '[' :: (text ++ [']'])

def Authority.text (a : Authority) : List Char :=
  a.host.text ++
    match a.port with
    | none => []
    | some port => ':' :: port

/-- The names of this machine. -/
def Host.isLoopback : Host → Prop
  | .name text => text.map Char.toLower = "localhost".toList ∨ text = "127.0.0.1".toList
  | .literal text => text = "::1".toList

theorem trim_plain {text : List Char} (first : ∀ c, text.head? = some c → isBlank c = false)
    (last : ∀ c, text.getLast? = some c → isBlank c = false) : trim text = text := by
  have front {text : List Char} (first : ∀ c, text.head? = some c → isBlank c = false) :
      text.dropWhile isBlank = text := by
    cases text with
    | nil => rfl
    | cons c text => exact List.dropWhile_cons_of_neg (by simp [first c rfl])
  have back : text.reverse.dropWhile isBlank = text.reverse := by
    apply front
    intro c found
    rw [List.head?_reverse] at found
    exact last c found
  rw [trim,front first,back,List.reverse_reverse]

/-- What a host's text is up to a mark that is not in it. -/
theorem takeWhile_until {text : List Char} {mark : Char} (free : mark ∉ text) (rest : List Char) :
    (text ++ mark :: rest).takeWhile (· != mark) = text := by
  rw [List.takeWhile_append_of_pos]
  · simp
  · intro c member
    have other : c ≠ mark := by
      rintro rfl
      exact free member
    simpa using other

theorem takeWhile_whole {text : List Char} {mark : Char} (free : mark ∉ text) : text.takeWhile (· != mark) = text := by
  rw [List.takeWhile_eq_self_iff]
  intro c member
  have other : c ≠ mark := by
    rintro rfl
    exact free member
  simpa using other

theorem digit_not_blank {c : Char} (digit : c.isDigit = true) : isBlank c = false := by
  by_contra blank
  simp only [isBlank,Bool.not_eq_false,Bool.or_eq_true,beq_iff_eq] at blank
  rcases blank with rfl | rfl
  · exact absurd digit (by decide)
  · exact absurd digit (by decide)

theorem trim_authority {a : Authority} (wellFormed : a.WellFormed) : trim a.text = a.text := by
  obtain ⟨host,port⟩ := a
  obtain ⟨plain,digits⟩ := wellFormed
  have inName {text : List Char} (plain : ∀ c ∈ text, c ∉ [':','[',']',' ','\t']) (c : Char) (member : c ∈ text) :
      isBlank c = false := by
    have other := plain c member
    simp only [List.mem_cons,List.not_mem_nil,or_false,not_or] at other
    simp [isBlank,other]
  apply trim_plain
  · intro c first
    cases host with
    | literal text =>
      have opened : c = '[' := by simpa [Authority.text,Host.text,eq_comm] using first
      rw [opened]
      rfl
    | name text =>
      cases text with
      | cons d text =>
        have same : d = c := by simpa [Authority.text,Host.text] using first
        exact inName plain c (by simp [same])
      | nil =>
        cases port with
        | none => simp [Authority.text,Host.text] at first
        | some port =>
          have colon : c = ':' := by simpa [Authority.text,Host.text,eq_comm] using first
          rw [colon]
          rfl
  · intro c last
    cases port with
    | some port =>
      have shape : (Authority.mk host (some port)).text = host.text ++ ':' :: port := rfl
      rw [shape,List.getLast?_append_of_ne_nil _ (by simp)] at last
      rcases List.mem_cons.mp (List.mem_of_getLast? last) with colon | inPort
      · rw [colon]
        rfl
      · exact digit_not_blank (digits port rfl c inPort)
    | none =>
      cases host with
      | literal text =>
        have shape : (Authority.mk (.literal text) none).text = ('[' :: text) ++ [']'] := by
          simp [Authority.text,Host.text]
        rw [shape,List.getLast?_concat] at last
        have closed : c = ']' := (Option.some.inj last).symm
        rw [closed]
        rfl
      | name text =>
        have inText : text.getLast? = some c := by simpa [Authority.text,Host.text] using last
        exact inName plain c (List.mem_of_getLast? inText)

/-- The header names this machine if its host does, whatever the port. -/
theorem isLoopbackHost_authority {a : Authority} (wellFormed : a.WellFormed) :
    isLoopbackHost a.text = true ↔ a.host.isLoopback := by
  have trimmed := trim_authority wellFormed
  obtain ⟨host,port⟩ := a
  obtain ⟨plain,digits⟩ := wellFormed
  rw [isLoopbackHost,trimmed]
  cases host with
  | literal text =>
    obtain ⟨rest,shape⟩ : ∃ rest, (Authority.mk (.literal text) port).text = '[' :: (text ++ ']' :: rest) := by
      cases port with
      | none => exact ⟨[],by simp [Authority.text,Host.text]⟩
      | some port => exact ⟨':' :: port,by simp [Authority.text,Host.text]⟩
    rw [shape]
    simp only [takeWhile_until plain,beq_iff_eq]
    rfl
  | name text =>
    have free (c : Char) (special : c ∈ [':','[',']',' ','\t']) : c ∉ text := fun member => plain c member special
    have hostname : (Authority.mk (.name text) port).text.takeWhile (· != ':') = text := by
      cases port with
      | none =>
        have shape : (Authority.mk (.name text) none).text = text := by simp [Authority.text,Host.text]
        rw [shape]
        exact takeWhile_whole (free ':' (by simp))
      | some port => exact takeWhile_until (free ':' (by simp)) port
    cases written : (Authority.mk (.name text) port).text with
    | nil =>
      have empty : text = [] := by
        rw [← hostname,written]
        rfl
      simp [empty,Host.isLoopback]
    | cons c rest =>
      have noBracket : c ≠ '[' := by
        rintro rfl
        rw [written,List.takeWhile_cons_of_pos (by decide)] at hostname
        exact free '[' (by simp) (by rw [← hostname]; exact List.mem_cons_self)
      rw [written] at hostname
      split
      · contradiction
      · next same => exact absurd (List.cons.inj same).1 noBracket
      · simp only [hostname,Bool.or_eq_true,beq_iff_eq]
        rfl

theorem stripPrefix_eq {text beginning rest : List Char} :
    stripPrefix text beginning = some rest ↔ text = beginning ++ rest := by
  unfold stripPrefix
  constructor
  · intro stripped
    split at stripped
    · next starts =>
      obtain ⟨behind,same⟩ := List.isPrefixOf_iff_prefix.mp starts
      rw [← same,List.drop_left,Option.some.injEq] at stripped
      rw [← same,stripped]
    · cases stripped
  · rintro rfl
    have starts : beginning.isPrefixOf (beginning ++ rest) = true :=
      List.isPrefixOf_iff_prefix.mpr (List.prefix_append _ _)
    rw [if_pos starts,List.drop_left]

theorem hexdigit_visible {c : Char} (digit : isAsciiHexdigit c = true) : 32 ≤ c.toNat ∧ c.toNat < 127 := by
  simp only [isAsciiHexdigit,Bool.or_eq_true,Bool.and_eq_true,decide_eq_true_eq,Char.le_def] at digit
  have code : c.toNat = c.val.toNat := rfl
  rcases digit with (⟨low,high⟩ | ⟨low,high⟩) | ⟨low,high⟩
  · have low' : 48 ≤ c.val.toNat := UInt32.le_iff_toNat_le.mp low
    have high' : c.val.toNat ≤ 57 := UInt32.le_iff_toNat_le.mp high
    omega
  · have low' : 97 ≤ c.val.toNat := UInt32.le_iff_toNat_le.mp low
    have high' : c.val.toNat ≤ 102 := UInt32.le_iff_toNat_le.mp high
    omega
  · have low' : 65 ≤ c.val.toNat := UInt32.le_iff_toNat_le.mp low
    have high' : c.val.toNat ≤ 70 := UInt32.le_iff_toNat_le.mp high
    omega

theorem protocol_visible {hash : List Char} (valid : isValidAuthHash hash = true) :
    ∀ c ∈ "webhid.".toList ++ hash, 32 ≤ c.toNat ∧ c.toNat < 127 := by
  simp only [isValidAuthHash,Bool.and_eq_true,List.all_eq_true] at valid
  intro c member
  rcases List.mem_append.mp member with start | inHash
  · have all : "webhid.".toList.all (fun c => 32 ≤ c.toNat ∧ c.toNat < 127) = true := by decide
    exact of_decide_eq_true (List.all_eq_true.mp all c start)
  · exact hexdigit_visible (valid.2 c inHash)

/-- An upgrade is let through with a hash. -/
theorem wsAuthenticate_ok {req : Request} {hash : List Char} : wsAuthenticate req = .ok hash ↔ req.upgrade = true ∧
    isLoopbackHost (hostText req) = true ∧ req.protocol = some (ascii ("webhid.".toList ++ hash)) ∧
    isValidAuthHash hash = true := by
  constructor
  · intro passed
    unfold wsAuthenticate wsAcceptCallback at passed
    cases upgrade : req.upgrade with
    | false => simp [upgrade] at passed
    | true =>
      by_cases loopback : isLoopbackHost (hostText req) = true
      · rw [upgrade,if_pos rfl,if_pos loopback] at passed
        cases stripped : (req.protocol.bind toStr).bind (stripPrefix · "webhid.".toList) with
        | none =>
          rw [stripped] at passed
          cases passed
        | some found =>
          rw [stripped] at passed
          by_cases valid : isValidAuthHash found = true
          · simp only [valid,if_true,Except.ok.injEq] at passed
            subst passed
            obtain ⟨text,read,starts⟩ := Option.bind_eq_some_iff.mp stripped
            obtain ⟨value,present,readable⟩ := Option.bind_eq_some_iff.mp read
            rw [stripPrefix_eq] at starts
            refine ⟨rfl,loopback,?_,valid⟩
            rw [present,ascii_of_toStr readable,starts]
          · simp [valid] at passed
      · rw [upgrade,if_pos rfl,if_neg loopback] at passed
        cases passed
  · rintro ⟨upgrade,loopback,protocol,valid⟩
    have stripped : (req.protocol.bind toStr).bind (stripPrefix · "webhid.".toList) = some hash := by
      rw [protocol,Option.bind_some,toStr_ascii (protocol_visible valid),Option.bind_some,stripPrefix_eq]
    unfold wsAuthenticate wsAcceptCallback
    rw [upgrade,if_pos rfl,if_pos loopback,stripped]
    simp only [valid,if_true]

theorem handleWebsocket_authenticated {m : DeviceManager} {req : Request} {deviceId : DeviceId} {token : Token} :
    handleWebsocket m req = .authenticated deviceId token ↔
      ∃ hash, wsAuthenticate req = .ok hash ∧ m.getDeviceByWsAuth (String.ofList hash) = some (deviceId,token) := by
  unfold handleWebsocket
  cases passed : wsAuthenticate req with
  | error verdict =>
    have refused : verdict ≠ .authenticated deviceId token := by
      rintro rfl
      unfold wsAuthenticate at passed
      split at passed
      · split at passed
        · cases passed
        · split at passed <;> cases passed
        · cases passed
      · cases passed
    simp [refused]
  | ok hash =>
    cases found : m.getDeviceByWsAuth (String.ofList hash) with
    | none => simp [found]
    | some pair =>
      obtain ⟨d,t⟩ := pair
      simp [found]

theorem handleSession_authenticated {m : DeviceManager} {path : List Char} {deviceId : DeviceId} {token : Token} :
    handleSession m path = .authenticated deviceId token ↔ isValidAuthHash (path.dropWhile (· == '/')) = true ∧
      m.getDeviceByWsAuth (String.ofList (path.dropWhile (· == '/'))) = some (deviceId,token) := by
  unfold handleSession
  by_cases valid : isValidAuthHash (path.dropWhile (· == '/')) = true
  · simp only [valid,if_true,true_and]
    cases found : m.getDeviceByWsAuth (String.ofList (path.dropWhile (· == '/'))) with
    | none => simp
    | some pair =>
      obtain ⟨d,t⟩ := pair
      simp
  · simp [valid]

/-- In a state that the daemon reaches, a hash is found if it is that of a session. -/
theorem getDeviceByWsAuth_iff {daemon : Daemon} {w : World} (ok : WorldOk daemon w) {hash : String} {deviceId : DeviceId}
    {token : Token} : w.mgr.getDeviceByWsAuth hash = some (deviceId,token) ↔
      ∃ s, Live w.mgr token s ∧ s.deviceId = deviceId ∧ hash = daemon.computeWsAuthHash token := by
  have registry := ok.coherent.registry
  constructor
  · intro found
    obtain ⟨t,hashed,rest⟩ := Option.bind_eq_some_iff.mp found
    obtain ⟨s,present,active⟩ := Option.bind_eq_some_iff.mp rest
    obtain ⟨keyed,live⟩ := registry.keyed t s present
    rw [if_pos live] at active
    cases active
    obtain ⟨s',present',hash⟩ := (registry.hashed _ _).mp hashed
    rw [present] at present'
    cases present'
    rw [keyed]
    exact ⟨s,⟨present,live⟩,rfl,by rw [← hash]; exact (ok.sessions t s present).2⟩
  · rintro ⟨s,⟨present,live⟩,rfl,rfl⟩
    have hashed := (registry.hashed (daemon.computeWsAuthHash token) token).mpr
        ⟨s,present,(ok.sessions token s present).2⟩
    rw [DeviceManager.getDeviceByWsAuth,hashed,Option.bind_some,present,Option.bind_some,if_pos live,
      (registry.keyed token s present).1]

theorem wsRequest_host (wsPort : UInt16) (token : String) :
    isLoopbackHost (hostText (wsRequest wsPort token)) = true := by
  let authority : Authority :=
    ⟨.name "127.0.0.1".toList,if wsPort = 80 then none else some (Nat.toDigits 10 wsPort.toNat)⟩
  have port {c : Char} (member : c ∈ Nat.toDigits 10 wsPort.toNat) : c.isDigit = true :=
    Nat.isDigit_of_mem_toDigits (by decide) (by decide) member
  have visibleDigit {c : Char} (digit : c.isDigit = true) : 32 ≤ c.toNat ∧ c.toNat < 127 := by
    apply hexdigit_visible
    simp only [Char.isDigit,Bool.and_eq_true,decide_eq_true_eq] at digit
    simp only [isAsciiHexdigit,Bool.or_eq_true,Bool.and_eq_true,decide_eq_true_eq]
    exact .inl (.inl digit)
  have text : authority.text = "127.0.0.1".toList ++ if wsPort = 80 then [] else ':' :: Nat.toDigits 10 wsPort.toNat := by
    by_cases standard : wsPort = 80
    · simp [authority,Authority.text,Host.text,standard]
    · simp [authority,Authority.text,Host.text,standard]
  have visible : ∀ c ∈ authority.text, 32 ≤ c.toNat ∧ c.toNat < 127 := by
    intro c member
    rw [text] at member
    rcases List.mem_append.mp member with inName | inPort
    · have all : "127.0.0.1".toList.all (fun c => 32 ≤ c.toNat ∧ c.toNat < 127) = true := by decide
      exact of_decide_eq_true (List.all_eq_true.mp all c inName)
    · split at inPort
      · cases inPort
      · rcases List.mem_cons.mp inPort with rfl | digit
        · decide
        · exact visibleDigit (port digit)
  have read : hostText (wsRequest wsPort token) = authority.text := by
    rw [hostText,wsRequest,Option.bind_some,← text,toStr_ascii visible,Option.getD_some]
  rw [read,isLoopbackHost_authority]
  · exact .inr rfl
  · refine ⟨?_,?_⟩
    · have plain : "127.0.0.1".toList.all (fun c => c ∉ [':','[',']',' ','\t']) = true := by decide
      exact fun c member => of_decide_eq_true (List.all_eq_true.mp plain c member)
    · intro digits found c member
      by_cases standard : wsPort = 80
      · simp [authority,standard] at found
      · have same : Nat.toDigits 10 wsPort.toNat = digits := by simpa [authority,standard] using found
        exact port (by rw [same]; exact member)

/-- Who is let in by a daemon in this state. -/
structure Admission (sha : Sha256) (daemon : Daemon) (w : World) : Prop where
  /-- A session's own requests, built from its token and the nonce the daemon told. -/
  own : ∀ token s hash wsPort, Live w.mgr token s → computeWsAuthHash sha (some daemon.wsNonce) token = some hash →
    handleWebsocket w.mgr (wsRequest wsPort hash) = .authenticated s.deviceId token ∧
    handleSession w.mgr (wtPath hash) = .authenticated s.deviceId token
  /-- Whatever else is let in was sent to this machine's name with the hash of a session. -/
  onlyWs : ∀ req deviceId token, handleWebsocket w.mgr req = .authenticated deviceId token →
    isLoopbackHost (hostText req) = true ∧ ∃ s, Live w.mgr token s ∧ s.deviceId = deviceId ∧
      req.protocol = some (ascii ("webhid.".toList ++ (daemon.computeWsAuthHash token).toList))
  onlyWt : ∀ path deviceId token, handleSession w.mgr path = .authenticated deviceId token →
    ∃ s, Live w.mgr token s ∧ s.deviceId = deviceId ∧
      path.dropWhile (· == '/') = (daemon.computeWsAuthHash token).toList
  /-- A page from elsewhere that has its name resolve to this machine gets nowhere. -/
  rebound : ∀ req (authority : Authority) deviceId token, req.host = some (ascii authority.text) → authority.WellFormed →
    (∀ c ∈ authority.text, 32 ≤ c.toNat ∧ c.toNat < 127) →
    handleWebsocket w.mgr req = .authenticated deviceId token → authority.host.isLoopback
  /-- A session that has ended is refused in the way that makes its page ask for a new one. -/
  ended : ∀ token hash wsPort, token ∈ w.shared.issued → (∀ s, ¬Live w.mgr token s) →
    computeWsAuthHash sha (some daemon.wsNonce) token = some hash →
    handleWebsocket w.mgr (wsRequest wsPort hash) = .closed wsCloseUnknownToken "unknown token" ∧
    handleSession w.mgr (wtPath hash) = .dropped (some 404)

/-- The requests of the add-on come through to the look-up. -/
theorem own_requests {sha : Sha256} (tryFrom : List UInt8 → Option ReportDescriptor) {nonce token hash : String}
    (made : computeWsAuthHash sha (some nonce) token = some hash) (wsPort : UInt16) :
    hash = (daemonOf sha tryFrom nonce).computeWsAuthHash token ∧
    wsAuthenticate (wsRequest wsPort hash) = .ok hash.toList ∧ isValidAuthHash hash.toList = true ∧
    (wtPath hash).dropWhile (· == '/') = hash.toList := by
  have same := hash_agrees sha tryFrom nonce made
  have valid : isValidAuthHash hash.toList = true := by
    rw [same]
    exact hash_valid sha tryFrom nonce token
  refine ⟨same,?_,valid,?_⟩
  · rw [wsAuthenticate_ok]
    exact ⟨rfl,wsRequest_host wsPort hash,rfl,valid⟩
  · -- The hash has no slash of its own to lose.
    have digits := (Bool.and_eq_true_iff.mp valid).2
    rw [wtPath,List.dropWhile_cons_of_pos rfl]
    cases text : hash.toList with
    | nil => rfl
    | cons c rest =>
      apply List.dropWhile_cons_of_neg
      intro slash
      have first := List.all_eq_true.mp digits c (by rw [text]; exact List.mem_cons_self)
      rw [beq_iff_eq.mp slash] at first
      cases first

/-- In every state that the daemon reaches, the data planes that get in are those of the live sessions. -/
theorem sessions_get_in (sha : Sha256) (tryFrom : List UInt8 → Option ReportDescriptor) (nonce : String) {w : World}
    (reachable : Reachable (daemonOf sha tryFrom nonce) w) : Admission sha (daemonOf sha tryFrom nonce) w := by
  have ok := reachable_ok reachable
  refine ⟨?_,?_,?_,?_,?_⟩
  · intro token s hash wsPort live made
    obtain ⟨same,passed,valid,path⟩ := own_requests tryFrom made wsPort
    have found : w.mgr.getDeviceByWsAuth (String.ofList hash.toList) = some (s.deviceId,token) := by
      rw [String.ofList_toList,getDeviceByWsAuth_iff ok]
      exact ⟨s,live,rfl,same⟩
    rw [handleWebsocket_authenticated,handleSession_authenticated,path]
    exact ⟨⟨hash.toList,passed,found⟩,valid,found⟩
  · intro req deviceId token letIn
    obtain ⟨hash,passed,found⟩ := handleWebsocket_authenticated.mp letIn
    obtain ⟨_,loopback,protocol,_⟩ := wsAuthenticate_ok.mp passed
    obtain ⟨s,live,device,same⟩ := (getDeviceByWsAuth_iff ok).mp found
    refine ⟨loopback,s,live,device,?_⟩
    rw [protocol,← same,String.toList_ofList (l := hash)]
  · intro path deviceId token letIn
    obtain ⟨_,found⟩ := handleSession_authenticated.mp letIn
    obtain ⟨s,live,device,same⟩ := (getDeviceByWsAuth_iff ok).mp found
    refine ⟨s,live,device,?_⟩
    rw [← same,String.toList_ofList]
  · intro req authority deviceId token host wellFormed visible letIn
    obtain ⟨hash,passed,_⟩ := handleWebsocket_authenticated.mp letIn
    obtain ⟨_,loopback,_⟩ := wsAuthenticate_ok.mp passed
    rw [hostText,host,Option.bind_some,toStr_ascii visible,Option.getD_some] at loopback
    exact (isLoopbackHost_authority wellFormed).mp loopback
  · intro token hash wsPort issued ended made
    obtain ⟨same,passed,valid,path⟩ := own_requests tryFrom made wsPort
    have unknown : w.mgr.getDeviceByWsAuth (String.ofList hash.toList) = none := by
      cases found : w.mgr.getDeviceByWsAuth (String.ofList hash.toList) with
      | none => rfl
      | some pair =>
        obtain ⟨s,live,_,other⟩ := (getDeviceByWsAuth_iff ok).mp found
        rw [String.ofList_toList,same] at other
        have equal := ok.distinct token issued _ (ok.sessions _ s live.1).1 other
        exact absurd (equal ▸ live) (ended s)
    constructor
    · rw [handleWebsocket,passed]
      simp only [unknown]
    · rw [handleSession,path,if_pos valid,unknown]

/-- A digest with the hash of one token and nonce. -/
def sampleSha : Sha256 where
  digest bytes := if bytes = encode (tokenA ++ vendorDaemon.wsNonce).toList then
      [0x05,0x08,0xea,0xc2,0xae,0x17,0xe1,0x48,0x8e,0x76,0x93,0x09,0x4f,0x4c,0x0b,0xb9,0x01,0xb2,0x45,0x8a,0xf3,0x6b,0x0b,
        0xf4,0x7c,0x35,0x97,0xd8,0xf6,0x23,0x4c,0x7f]
    else List.replicate 32 0
  size bytes := by
    split
    · rfl
    · rfl

def sampleDaemon : Daemon := daemonOf sampleSha vendorDaemon.lib.tryFrom vendorDaemon.wsNonce

/-- The session of a client that has opened a device gets in. -/
theorem opened_session_gets_in : ∃ w, Runs.exec (step sampleDaemon) {} (connecting 1 ++ openingFirst 1 tokenA) = some w ∧
    (w.mgr.sessions.lookup tokenA).isSome = true ∧ Admission sampleSha sampleDaemon w := by
  have opens : ((Runs.exec (step sampleDaemon) {} (connecting 1 ++ openingFirst 1 tokenA)).map
      (fun w => (w.mgr.sessions.lookup tokenA).isSome)) = some true := by decide +kernel
  obtain ⟨w,run,opened⟩ := Option.map_eq_some_iff.mp opens
  exact ⟨w,run,opened,sessions_get_in sampleSha vendorDaemon.lib.tryFrom vendorDaemon.wsNonce ⟨_,run⟩⟩

end FFWebHid.PlaneHandshake
