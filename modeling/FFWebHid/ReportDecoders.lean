import Std.Data.String.ToNat
import FFWebHid.Base64
import FFWebHid.LittleEndian
import FFWebHid.NativeMessages
import FFWebHid.TransportFrames
import FFWebHid.InputSender
import FFWebHid.InputFanout
import FFWebHid.ReportResults

/-!
The decoders of reports and responses on the JavaScript side, position by position as the
source has them. A read beyond the end of the bytes has no value, so a decoder that returns
one has used no such byte; and each is total, as every turn of its loop moves the offset on.
They compute what the decoders on lists compute, for which the round trips are known.
-/
namespace FFWebHid.ReportDecoders
open FFWebHid.LittleEndian FFWebHid.TransportFrames FFWebHid.ReportResults
open FFWebHid.Types (Bytes DeviceId)
open FFWebHid.InputSender (Report parseLoop present writeBatchFrame)
open FFWebHid.NativeMessages (pkgInputReport packedInputReport)
open FFWebHid.InputFanout (World Message Route reportsLoop tabsForEvent)
open FFWebHid.Background (Browser)

/-- `getUint16` and the like: a little-endian number, if all of its bytes are there. -/
def numberAt (width : Nat) (bytes : Bytes) (offset : Nat) : Option Nat :=
  if offset + width ≤ bytes.length then some (fieldAt bytes offset width) else none

/-- `subarray`, if all of its bytes are there. -/
def subarray (bytes : Bytes) (start stop : Nat) : Option Bytes :=
  if stop ≤ bytes.length then some ((bytes.drop start).take (stop - start)) else none

/-- `parseInputReports`: the reports from an offset on; one without payload has no buffer. -/
def parseInputReports (batch : Bytes) (offset : Nat) : Option (List (UInt8 × Option Bytes)) :=
  if offset + 1 < batch.length then
    match batch[offset]?,batch[offset + 1]? with
    | some low,some high =>
      let len := low.toNat + 256 * high.toNat
      if len = 0 ∨ offset + 2 + len > batch.length then some []
      else
        match batch[offset + 2]?,subarray batch (offset + 3) (offset + 2 + len) with
        | some reportId,some payload => (parseInputReports batch (offset + 2 + len)).map fun rest =>
          (reportId,if len - 1 > 0 then some payload else none) :: rest
        | _,_ => none
    | _,_ => none
  else some []
termination_by batch.length - offset

/-- The loop of `onPackedData`. -/
def packedReports (bin : Bytes) (offset : Nat) : Option (List Report) :=
  if offset + 3 ≤ bin.length then
    match bin[offset]?,bin[offset + 1]?,bin[offset + 2]? with
    | some reportId,some low,some high =>
      let payloadLen := low.toNat + 256 * high.toNat
      if offset + 3 + payloadLen > bin.length then some []
      else
        match subarray bin (offset + 3) (offset + 3 + payloadLen) with
        | some payload => (packedReports bin (offset + 3 + payloadLen)).map fun rest => (reportId,payload) :: rest
        | none => none
    | _,_,_ => none
  else some []
termination_by bin.length - offset

/-- `onPackedData`: the messages that it sends for the text of a frame. -/
def onPackedData (b : Browser) (w : World) (b64 : String) : Option (List Message) :=
  match Base64.fromBase64 b64 with
  | none => some []
  | some bin =>
    if bin.length < 8 then some []
    else
      match bin[0]?,numberAt 4 bin 1 with
      | some type,some deviceId =>
        if type ≠ pkgInputReport then some []
        else
          match tabsForEvent w.bridge.background.state deviceId with
          | none => some []
          | some targets => (packedReports bin 5).map fun reports => reports.flatMap fun report =>
            (w.routes b targets deviceId).map fun route => ⟨route,deviceId,report⟩
      | _,_ => none

/-- `handleControlResponse`: the entry of the pending map that is settled, and how. -/
def handleControlResponse {E : Type} (batch : Bytes) (pending : Nat → Option E) : Option (Option (E × Reply)) :=
  if batch.length < 6 then some none
  else
    match batch[0]?,numberAt 4 batch 1,batch[5]? with
    | some respType,some reqId,some status =>
      match pending reqId with
      | none => some none
      | some entry =>
        if respType = respReceiveFeatureReport then
          if status = 2 then some (some (entry,.reject .blocked))
          else if status ≠ 0 then some (some (entry,.reject (.error "feature read failed")))
          else if batch.length < 8 then some (some (entry,.reject (.error "short feature resp")))
          else
            match numberAt 2 batch 6 with
            | none => none
            | some len =>
              if len > 0 ∧ batch.length ≥ 8 + len then
                (subarray batch 8 (8 + len)).map fun out => some (entry,.resolve (some out))
              else some (some (entry,.resolve (some (List.replicate len 0))))
        else if status = 0 then some (some (entry,.resolve none))
        else if status = 2 then some (some (entry,.reject .blocked))
        else some (some (entry,.reject (.error s!"write failed status={status}")))
    | _,_,_ => none

theorem drop_cons {bytes : Bytes} {offset : Nat} (inside : offset < bytes.length) :
    ∃ byte, bytes[offset]? = some byte ∧ bytes.drop offset = byte :: bytes.drop (offset + 1) :=
  ⟨bytes[offset],List.getElem?_eq_getElem inside,List.drop_eq_getElem_cons inside⟩

theorem subarray_some {bytes : Bytes} {start stop : Nat} (inside : stop ≤ bytes.length) :
    subarray bytes start stop = some ((bytes.drop start).take (stop - start)) := if_pos inside

theorem numberAt_some {width offset : Nat} {bytes : Bytes} (inside : offset + width ≤ bytes.length) :
    numberAt width bytes offset = some (fieldAt bytes offset width) := if_pos inside

theorem parseInputReports_eq (batch : Bytes) (offset fuel : Nat) (enough : batch.length ≤ offset + fuel) :
    parseInputReports batch offset = some (parseLoop fuel (batch.drop offset)) := by
  induction fuel generalizing offset with
  | zero =>
    unfold parseInputReports
    rw [if_neg (by omega)]
    rfl
  | succ fuel ih =>
    unfold parseInputReports
    by_cases more : offset + 1 < batch.length
    · obtain ⟨low,first,split⟩ := drop_cons (Nat.lt_of_succ_lt more)
      obtain ⟨high,second,split'⟩ := drop_cons more
      rw [if_pos more,first,second,split,split',parseLoop]
      dsimp only
      generalize len : low.toNat + 256 * high.toNat = n
      have long : (batch.drop (offset + 1 + 1)).length = batch.length - (offset + 2) := List.length_drop
      by_cases stops : n = 0 ∨ offset + 2 + n > batch.length
      · rw [if_pos stops]
        split
        · rfl
        · rename_i reportId payload taken
          rw [if_pos]
          rcases stops with zero | beyond
          · rw [zero] at taken; cases taken
          · omega
      · obtain ⟨reportId,third,split''⟩ := drop_cons (show offset + 1 + 1 < batch.length by omega)
        obtain ⟨m,rfl⟩ : ∃ m, n = m + 1 := ⟨n - 1,by omega⟩
        have rest : (batch.drop (offset + 1 + 1)).drop (m + 1) = batch.drop (offset + 2 + (m + 1)) := by
          rw [List.drop_drop]
        rw [if_neg stops,third,subarray_some (by omega),ih _ (by omega),rest,split'',List.take_succ_cons]
        have whole : ¬ (reportId :: batch.drop (offset + 1 + 1 + 1)).length < m + 1 := by
          rw [← split'',long]; omega
        dsimp only
        rw [if_neg whole]
        simp only [Option.map_some,Option.some.injEq,List.cons.injEq,and_true,present,Prod.mk.injEq,true_and]
        have width : offset + 2 + (m + 1) - (offset + 3) = m := by omega
        have payload : ((batch.drop (offset + 3)).take m).length = m := by
          rw [List.length_take,List.length_drop]; omega
        rw [width]
        by_cases empty : m = 0
        · subst empty; simp
        · have some : (batch.drop (offset + 3)).take m ≠ [] := List.ne_nil_of_length_pos (by omega)
          rw [if_pos (by omega),if_neg some]
    · rw [if_neg more]
      have short : (batch.drop offset).length ≤ 1 := by rw [List.length_drop]; omega
      generalize batch.drop offset = tail at short ⊢
      rcases tail with _ | ⟨_,_ | ⟨_,rest⟩⟩
      · rfl
      · rfl
      · simp at short

theorem packedReports_eq (bin : Bytes) (offset fuel : Nat) (enough : bin.length ≤ offset + fuel) :
    packedReports bin offset = some (reportsLoop fuel (bin.drop offset)) := by
  induction fuel generalizing offset with
  | zero =>
    unfold packedReports
    rw [if_neg (by omega)]
    rfl
  | succ fuel ih =>
    unfold packedReports
    by_cases more : offset + 3 ≤ bin.length
    · obtain ⟨reportId,first,split⟩ := drop_cons (show offset < bin.length by omega)
      obtain ⟨low,second,split'⟩ := drop_cons (show offset + 1 < bin.length by omega)
      obtain ⟨high,third,split''⟩ := drop_cons (show offset + 1 + 1 < bin.length by omega)
      rw [if_pos more,first,second,third,split,split',split'',reportsLoop]
      dsimp only
      generalize low.toNat + 256 * high.toNat = n
      have long : (bin.drop (offset + 1 + 1 + 1)).length = bin.length - (offset + 3) := List.length_drop
      by_cases stops : offset + 3 + n > bin.length
      · rw [if_pos stops,if_pos (by omega)]
      · have rest : (bin.drop (offset + 1 + 1 + 1)).drop n = bin.drop (offset + 3 + n) := by rw [List.drop_drop]
        have width : offset + 3 + n - (offset + 3) = n := by omega
        rw [if_neg stops,if_neg (by omega),subarray_some (by omega),ih _ (by omega),rest,width]
        rfl
    · rw [if_neg more]
      have short : (bin.drop offset).length ≤ 2 := by rw [List.length_drop]; omega
      generalize bin.drop offset = tail at short ⊢
      rcases tail with _ | ⟨_,_ | ⟨_,_ | ⟨_,rest⟩⟩⟩
      · rfl
      · rfl
      · rfl
      · simp at short

/-- The messages of a frame are those of its bytes; a text that is none has no message. -/
theorem onPackedData_eq (b : Browser) (w : World) (b64 : String) :
    onPackedData b w b64 = some ((Base64.fromBase64 b64).elim [] (w.onPackedData b)) := by
  unfold onPackedData
  cases Base64.fromBase64 b64 with
  | none => rfl
  | some bin =>
    dsimp only [Option.elim_some]
    unfold World.onPackedData
    by_cases short : bin.length < 8
    · rw [if_pos short,if_pos (.inl short)]
    · obtain ⟨type,first,split⟩ := @drop_cons bin 0 (by omega)
      have head : bin.head? = some type := by rw [List.head?_eq_getElem?]; exact first
      rw [if_neg short,first,numberAt_some (by omega),head]
      dsimp only
      by_cases other : type = pkgInputReport
      · rw [if_neg (by simpa using other),if_neg (by rintro (few | differs); exacts [short few,differs (congrArg some other)])]
        cases tabsForEvent w.bridge.background.state (fieldAt bin 1 4) with
        | none => rfl
        | some targets =>
          dsimp only
          rw [packedReports_eq bin 5 bin.length (by omega)]
          rfl
      · rw [if_pos other,if_pos (.inr (by simpa using other))]

theorem handleControlResponse_eq {E : Type} (batch : Bytes) (pending : Nat → Option E) :
    handleControlResponse batch pending = some (ReportResults.handleControlResponse batch pending) := by
  unfold handleControlResponse ReportResults.handleControlResponse
  by_cases short : batch.length < 6
  · rw [if_pos short,if_pos short]
  · obtain ⟨respType,first,-⟩ := @drop_cons batch 0 (by omega)
    obtain ⟨status,last,-⟩ := @drop_cons batch 5 (by omega)
    have type : batch.getD 0 0 = respType := by rw [List.getD_eq_getElem?_getD,first]; rfl
    have state : batch.getD 5 0 = status := by rw [List.getD_eq_getElem?_getD,last]; rfl
    rw [if_neg short,if_neg short,first,last,numberAt_some (by omega),type,state]
    dsimp only
    cases pending (fieldAt batch 1 4) with
    | none => rfl
    | some entry =>
      dsimp only [Option.map_some]
      by_cases short' : batch.length < 8
      · simp only [short',if_true]
        split_ifs <;> rfl
      · have long : 6 + 2 ≤ batch.length := by omega
        simp only [short',if_false,numberAt_some long]
        by_cases whole : 0 < fieldAt batch 6 2 ∧ 8 + fieldAt batch 6 2 ≤ batch.length
        · have width : 8 + fieldAt batch 6 2 - 8 = fieldAt batch 6 2 := by omega
          simp only [gt_iff_lt,ge_iff_le,whole,and_self,if_true,subarray_some whole.2,width,Option.map_some]
          split_ifs <;> rfl
        · simp only [gt_iff_lt,ge_iff_le,whole,if_false]
          split_ifs <;> rfl

/-! ### What they recover -/

/-- How a request is settled by a status response. -/
def statusReply (status : UInt8) : Reply :=
  if status = 0 then .resolve none
  else if status = 2 then .reject .blocked
  else .reject (.error s!"write failed status={status}")

/-- The outcome that the settlement of a feature read stands for. -/
def recovered : Reply → Outcome
  | .resolve data => .success (data.getD [])
  | .reject .blocked => .blocked
  | .reject (.error _) => .failure

theorem statusReply_injective : Function.Injective statusReply := by
  intro a b same
  unfold statusReply at same
  split_ifs at same
  · exact ‹a = 0›.trans ‹b = 0›.symm
  · exact ‹a = 2›.trans ‹b = 2›.symm
  · cases same
  · cases same
  · have texts := Reason.error.inj (Reply.reject.inj same)
    have numbers : toString a = toString b := by simpa [String.append_right_inj] using texts
    exact UInt8.toNat_inj.mp (Nat.repr_injective numbers)

theorem present_recovers (reports : List Report) :
    (reports.map present).map (fun (reportId,data) => (reportId,data.getD [])) = reports := by
  rw [List.map_map]
  refine List.map_id'' ?_ reports
  rintro ⟨reportId,data⟩
  by_cases empty : data = [] <;> simp [present,empty]

theorem read_recovers {E : Type} (reqId : UInt32) (outcome : Outcome) (short : (dataOf outcome).length ≤ 0xFFFF)
    (pending : Nat → Option E) : ∃ reply, recovered reply = outcome ∧
      ReportResults.handleControlResponse (makeFeatureReadResp reqId (statusOf outcome) (dataOf outcome)) pending =
        (pending reqId.toNat).map fun entry => (entry,reply) := by
  cases outcome with
  | success data => exact ⟨.resolve (some data),rfl,control_read reqId (Nat.lt_succ_of_le short) pending⟩
  | blocked => exact ⟨.reject .blocked,rfl,control_unread reqId (by decide) pending⟩
  | failure => exact ⟨.reject (.error "feature read failed"),rfl,control_unread reqId (by decide) pending⟩

/-- The decoders give back what the daemon has encoded, and end on every string of bytes
    without a byte from behind its end. -/
theorem codecs_agree :
    (∀ reports : List Report, (∀ report ∈ reports, report.2.length ≤ 4096) →
      ∃ parsed, parseInputReports (writeBatchFrame reports) 1 = some parsed ∧
        parsed.map (fun (reportId,data) => (reportId,data.getD [])) = reports) ∧
    (∀ (b : Browser) (w : World) (deviceId : DeviceId) (reports : List Report) (bin : Bytes)
      (targets : List StateOps.TabId),
      (∀ report ∈ reports, report.2.length ≤ 4096) → packedInputReport deviceId reports = .packedData bin →
      tabsForEvent w.bridge.background.state deviceId.toNat = some targets →
      onPackedData b w (Base64.encode bin) = some (reports.flatMap fun report =>
        (w.routes b targets deviceId.toNat).map fun route => ⟨route,deviceId.toNat,report⟩)) ∧
    (∀ (E : Type) (pending : Nat → Option E) (respType : UInt8) (reqId : UInt32) (status : UInt8),
      respType ≠ respReceiveFeatureReport → handleControlResponse (makeStatusResp respType reqId status) pending =
        some ((pending reqId.toNat).map fun entry => (entry,statusReply status))) ∧
    Function.Injective statusReply ∧
    (∀ (E : Type) (pending : Nat → Option E) (reqId : UInt32) (outcome : Outcome), (dataOf outcome).length ≤ 0xFFFF →
      ∃ reply, recovered reply = outcome ∧
        handleControlResponse (makeFeatureReadResp reqId (statusOf outcome) (dataOf outcome)) pending =
          some ((pending reqId.toNat).map fun entry => (entry,reply))) ∧
    (∀ batch offset, (parseInputReports batch offset).isSome) ∧
    (∀ b w b64, (onPackedData b w b64).isSome) ∧
    ∀ (E : Type) (pending : Nat → Option E) batch, (handleControlResponse batch pending).isSome := by
  refine ⟨?_,?_,?_,statusReply_injective,?_,?_,?_,?_⟩
  · intro reports fits
    refine ⟨reports.map present,?_,present_recovers reports⟩
    rw [parseInputReports_eq _ 1 (writeBatchFrame reports).length (Nat.le_add_left _ _)]
    refine congrArg some (InputSender.parseInputReports_written fun report among => ?_)
    exact Nat.lt_of_le_of_lt (fits report among) (by decide)
  · intro b w deviceId reports bin targets fits frame found
    rw [onPackedData_eq,Base64.fromBase64_encode,Option.elim_some,InputFanout.onPackedData_written
      (fun report among => Nat.lt_of_le_of_lt (fits report among) (by decide)) frame,found]
  · intro E pending respType reqId status notRead
    rw [handleControlResponse_eq,control_status notRead]
    rfl
  · intro E pending reqId outcome short
    obtain ⟨reply,means,settled⟩ := read_recovers reqId outcome short pending
    exact ⟨reply,means,by rw [handleControlResponse_eq,settled]⟩
  · intro batch offset
    rw [parseInputReports_eq batch offset batch.length (Nat.le_add_left _ _)]
    rfl
  · intro b w b64
    rw [onPackedData_eq]
    rfl
  · intro E pending batch
    rw [handleControlResponse_eq]
    rfl

/-- Two reports of device 7, the second without payload, reach the port of the tab in which both
    origins have it open. -/
theorem packed_reports_reach_port : ∃ w, Runs.exec (InputFanout.step InputFanout.twoOrigins "bridge-a") InputFanout.init
      InputFanout.bothOnNm = some w ∧ tabsForEvent w.bridge.background.state 7 = some [1] ∧
    ∃ port, w.routes InputFanout.twoOrigins [1] 7 = [.port port] ∧
      onPackedData InputFanout.twoOrigins w (Base64.encode [1,7,0,0,0,5,1,0,9,6,0,0]) =
        some [⟨.port port,7,(5,[9])⟩,⟨.port port,7,(6,[])⟩] := by
  obtain ⟨w,run⟩ := Option.isSome_iff_exists.mp (by decide :
    (Runs.exec (InputFanout.step InputFanout.twoOrigins "bridge-a") InputFanout.init InputFanout.bothOnNm).isSome = true)
  have facts : (Runs.exec (InputFanout.step InputFanout.twoOrigins "bridge-a") InputFanout.init
      InputFanout.bothOnNm).map (fun w => (tabsForEvent w.bridge.background.state 7,
        w.routes InputFanout.twoOrigins [1] 7)) = some (some [1],[.port ⟨"bridge-a",7,0⟩]) := by decide
  rw [run] at facts
  simp only [Option.map_some,Option.some.injEq,Prod.mk.injEq] at facts
  obtain ⟨targets,routes⟩ := facts
  refine ⟨w,run,targets,_,routes,?_⟩
  have frame : packedInputReport 7 [(5,[9]),(6,[])] = .packedData [1,7,0,0,0,5,1,0,9,6,0,0] :=
    congrArg NativeMessages.NmMessage.packedData (by decide)
  have sent := codecs_agree.2.1 InputFanout.twoOrigins w 7 [(5,[9]),(6,[])] _ [1] (by decide) frame targets
  rw [sent]
  show some ([(5,[9]),(6,[])].flatMap fun report =>
    (w.routes InputFanout.twoOrigins [1] 7).map fun route => (⟨route,7,report⟩ : Message)) = _
  rw [routes]
  rfl

end FFWebHid.ReportDecoders
