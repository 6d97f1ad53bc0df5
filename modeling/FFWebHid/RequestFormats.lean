import FFWebHid.NativeMessages

/-!
Which bodies of a frame are requests: the packed sends that are complete, and
the JSON messages whose action is known and whose fields are present and fit
their widths. The decoder accepts exactly these, and what it accepts keeps the
identifier that can be read from the body.
-/
namespace FFWebHid.RequestFormats
open FFWebHid.Types FFWebHid.LittleEndian FFWebHid.WireFormats FFWebHid.NativeMessages

/-- The number under a key, if it is one without sign. -/
def number (v : Value) (key : String) : Option UInt64 := (v.get key).bind Value.asU64

/-- There is a number under a key, and it fits. -/
def Fits (v : Value) (key : String) (bound : Nat) : Prop := ∃ n, number v key = some n ∧ n.toNat < bound

/-- What an action requires: a device for all but the enumeration and the
    handshake, a report for a feature read, a mode for a change of the plane. -/
def ActionComplete (v : Value) (action : Nat) : Prop :=
  action = 1 ∨ action = 8 ∨ (action = 2 ∨ action = 3) ∧ Fits v "i" 0x100000000 ∨
    action = 5 ∧ Fits v "i" 0x100000000 ∧ Fits v "r" 0x100 ∨
      action = 7 ∧ Fits v "i" 0x100000000 ∧ ∃ mode, (v.get "m").bind Value.asStr = some mode

/-- A request in JSON, with every field that is there or has to be in range. -/
structure JsonComplete (lib : Decoders) (v : Value) : Prop where
  id : ∀ n, number v "n" = some n → n.toNat < 0x100000000
  filter : ∀ value, v.get "f" = some value → ∃ filter, lib.filter value = .ok filter
  action : ∃ action, number v "a" = some action ∧ ActionComplete v action.toNat

/-- The type of a packed send. -/
def IsSend (packed : Bytes) : Prop := packed.head? = some pkgSendReport ∨ packed.head? = some pkgSendFeatureReport

instance (packed : Bytes) : Decidable (IsSend packed) := inferInstanceAs (Decidable (_ ∨ _))

/-- The text of the packed bytes, if a body is packed. -/
def packedText (lib : Decoders) (buf : Bytes) : Option String :=
  match lib.envelope buf with
  | .ok ⟨some d,false⟩ => some d
  | _ => none

/-- The body of a request, complete in its own encoding. -/
def WellFormed (lib : Decoders) (buf : Bytes) : Prop :=
  match packedText lib buf with
  | some d => ∃ packed, lib.base64 d = .ok packed ∧ IsSend packed ∧ Complete packed
  | none => ∃ v, lib.json buf = .ok v ∧ JsonComplete lib v

/-- The header of a packed send has its identifier in the first five bytes. -/
def packedId (packed : Bytes) : Option UInt32 :=
  if IsSend packed ∧ 5 ≤ packed.length then some (UInt32.ofNat (fieldAt packed 1 4)) else none

/-- The number under `n`, if it is a request identifier. -/
def valueId (v : Value) : Option UInt32 :=
  (number v "n").bind fun n => if n.toNat < 0x100000000 then some n.toUInt32 else none

/-- The identifier that can be read from a body: from its packed bytes, else from
    its JSON. -/
def readableId (lib : Decoders) (buf : Bytes) : Option UInt32 :=
  (((packedText lib buf).bind fun d => (lib.base64 d).toOption).bind packedId).or
    ((lib.json buf).toOption.bind valueId)

/-- The identifier that the answer to a request carries. -/
def answeredId : NmRequest → Option UInt32
  | .sendReport id packed =>
    match parsePackedSend packed with
    | .ok (reqId,_) => some reqId
    | .error _ => id
  | request => request.id

/-- The identifier with which a body is answered: the one of its request, if it is
    decoded and, for an output report, its bytes are complete. -/
def bodyId (lib : Decoders) (buf : Bytes) : Option UInt32 :=
  (decodeBody lib buf).toOption.bind answeredId

end FFWebHid.RequestFormats
