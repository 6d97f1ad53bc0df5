import FFWebHid.LittleEndian
import FFWebHid.Types

/-!
The binary layouts of report requests. Over native messaging a send is packed as
`[msgType][reqId u32][deviceId u32][reportId][payloadLen u16][payload]`; a
transport carries `[msgType][reqId u32][reportId][payload]`, with the payload
reaching to the end of the frame.
-/
namespace FFWebHid.WireFormats
open FFWebHid.Types FFWebHid.LittleEndian

/-! ### Packed sends -/

def pkgSendReport : UInt8 := 0x02
def pkgSendFeatureReport : UInt8 := 0x04

/-- `buildPackedSend` of `packed.js`. A number that does not fit its field is
    stored modulo the field's size, the payload's length as well. -/
def buildPackedSend (msgType : UInt8) (reqId deviceId reportId : Nat) (data : Bytes) : Bytes :=
  [msgType] ++ toLe 4 reqId ++ toLe 4 deviceId ++ [UInt8.ofNat reportId] ++ toLe 2 data.length ++ data

/-- `parse_packed_send`: request, device, report and payload. -/
def parsePackedSend (buf : Bytes) : Except String (UInt32 × DeviceId × UInt8 × Bytes) :=
  if buf.length < 12 then .error "short packed send TLV"
  else
    let payloadLen := fieldAt buf 10 2
    if buf.length < 12 + payloadLen then .error "truncated payload"
    else .ok (UInt32.ofNat (fieldAt buf 1 4),UInt32.ofNat (fieldAt buf 5 4),buf.getD 9 0,(buf.drop 12).take payloadLen)

/-- The packed bytes hold a header and the whole payload that it declares. -/
def Complete (packed : Bytes) : Prop := 12 ≤ packed.length ∧ 12 + fieldAt packed 10 2 ≤ packed.length

instance (packed : Bytes) : Decidable (Complete packed) := inferInstanceAs (Decidable (_ ∧ _))

/-- A packed send is accepted exactly when it is complete. -/
theorem parsePackedSend_ok_iff {buf : Bytes} {request : UInt32 × DeviceId × UInt8 × Bytes} :
    parsePackedSend buf = .ok request ↔ Complete buf ∧
      request = (UInt32.ofNat (fieldAt buf 1 4),UInt32.ofNat (fieldAt buf 5 4),buf.getD 9 0,
        (buf.drop 12).take (fieldAt buf 10 2)) := by
  unfold parsePackedSend Complete
  split
  · case isTrue short => constructor
                         · intro accepted; cases accepted
                         · rintro ⟨⟨header,_⟩,_⟩; omega
  · case isFalse header =>
    simp only
    split
    · case isTrue truncated => constructor
                               · intro accepted; cases accepted
                               · rintro ⟨⟨_,payload⟩,_⟩; omega
    · case isFalse payload =>
      constructor
      · intro accepted
        cases accepted
        exact ⟨⟨by omega,by omega⟩,rfl⟩
      · rintro ⟨_,rfl⟩
        rfl

theorem length_buildPackedSend (msgType : UInt8) (reqId deviceId reportId : Nat) (data : Bytes) :
    (buildPackedSend msgType reqId deviceId reportId data).length = 12 + data.length := by
  simp [buildPackedSend]
  omega

/-- The numbers of a packed send, each modulo the size of its field. -/
theorem buildPackedSend_fields (msgType : UInt8) (reqId deviceId reportId : Nat) (data : Bytes) :
    let buf := buildPackedSend msgType reqId deviceId reportId data
    fieldAt buf 1 4 = reqId % 256 ^ 4 ∧ fieldAt buf 5 4 = deviceId % 256 ^ 4 ∧ buf.getD 9 0 = UInt8.ofNat reportId ∧
      fieldAt buf 10 2 = data.length % 256 ^ 2 ∧ buf.drop 12 = data := by
  intro buf
  have request := fieldAt_append [msgType] (toLe 4 reqId)
    (toLe 4 deviceId ++ [UInt8.ofNat reportId] ++ toLe 2 data.length ++ data)
  have device := fieldAt_append ([msgType] ++ toLe 4 reqId) (toLe 4 deviceId)
    ([UInt8.ofNat reportId] ++ toLe 2 data.length ++ data)
  have length := fieldAt_append ([msgType] ++ toLe 4 reqId ++ toLe 4 deviceId ++ [UInt8.ofNat reportId])
    (toLe 2 data.length) data
  simp only [length_toLe,List.length_append,List.length_cons,List.length_nil,ofLe_toLe,List.append_assoc] at request device length
  refine ⟨?_,?_,rfl,?_,rfl⟩
  · simpa only [buf,buildPackedSend,List.append_assoc] using request
  · simpa only [buf,buildPackedSend,List.append_assoc] using device
  · simpa only [buf,buildPackedSend,List.append_assoc] using length

/-- What was built is parsed again, but for the part of the payload that its length,
    cut to 16 bits, leaves out. -/
theorem parsePackedSend_build (msgType : UInt8) (reqId deviceId reportId : Nat) (data : Bytes) :
    parsePackedSend (buildPackedSend msgType reqId deviceId reportId data) =
      .ok (UInt32.ofNat reqId,UInt32.ofNat deviceId,UInt8.ofNat reportId,data.take (data.length % 0x10000)) := by
  obtain ⟨request,device,report,length,payload⟩ := buildPackedSend_fields msgType reqId deviceId reportId data
  apply parsePackedSend_ok_iff.mpr
  constructor
  · rw [Complete,length_buildPackedSend,length]
    have short := Nat.mod_le data.length (256 ^ 2)
    omega
  · have wrap (n : Nat) : UInt32.ofNat (n % 256 ^ 4) = UInt32.ofNat n := by
      apply UInt32.toNat_inj.mp
      simp
    rw [request,device,report,length,payload,wrap,wrap]
    rfl

end FFWebHid.WireFormats
