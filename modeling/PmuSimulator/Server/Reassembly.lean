import Mathlib
import PmuSimulator.Foundation.Framer
import PmuSimulator.Server.ReceiveBuffer

/-!
# Reassembly of commands

The grammar of command frames is stated here on its own, with a parser that takes a whole stream at
once. `next_command` accepts exactly that grammar, and draining it after each piece of a stream
gives what the one-shot parser gives, however the stream is cut.
-/

namespace PmuSimulator

/-! ### The grammar -/

/-- The byte of frame type and version of a command. -/
def commandByte : WireVersion → UInt8
  | .v2 => 0x42
  | .v3 => 0xc3

/-- The supported command codes. -/
def commandTable : WireVersion → List (UInt16 × ServerCommand)
  | .v2 => [(0x0001, .stop), (0x0002, .start), (0x0003, .v2Header), (0x0004, .v2Configuration1),
      (0x0005, .v2Configuration2)]
  | .v3 => [(0x0010, .stop), (0x0020, .start), (0x0040, .v3Capability),
      (0x0060, .v3StreamConfiguration)]

/-- The payload of a command: eight bytes between identifier and code are free. -/
def commandPayload (wireVersion : WireVersion) (idcode : UInt16) (stamp : List UInt8)
    (code : UInt16) : List UInt8 :=
  [0xaa, commandByte wireVersion, 0, 18] ++ u16ToBeBytes idcode ++ stamp ++ u16ToBeBytes code

/-- A command frame: a payload with a supported code, and its checksum. -/
def CommandFrame (wireVersion : WireVersion) (frame : List UInt8) (idcode : UInt16)
    (command : ServerCommand) : Prop :=
  ∃ stamp code, stamp.length = 8 ∧ (code, command) ∈ commandTable wireVersion ∧
    frame = commandPayload wireVersion idcode stamp code ++
      u16ToBeBytes (crc16Ccitt (commandPayload wireVersion idcode stamp code))

/-- Any frame of the version: sync byte, declared size and checksum are right. -/
def isFrame (wireVersion : WireVersion) (frame : List UInt8) : Bool :=
  16 ≤ frame.length && frame.getD 0 0 == 0xaa &&
    (wireVersion == .v3 || frame.getD 1 0 < 0x80) &&
    FrameView.declaredSize frame == frame.length && checksumMatches frame

/-- The command a frame carries, if it is a command with a supported code. -/
def commandIn (wireVersion : WireVersion) (frame : List UInt8) : Option ServerCommand :=
  if frame.length = 18 ∧ frame.getD 1 0 = commandByte wireVersion then
    (commandTable wireVersion).lookup (u16At frame 14)
  else
    none

def outcomeOf (wireVersion : WireVersion) (frame : List UInt8) : ReceivedCommand :=
  match commandIn wireVersion frame with
  | some command => .accepted ⟨u16At frame 4, command⟩
  | none => .rejected (u16At frame 4) wireVersion

/-! ### `next_command` follows the grammar -/

lemma commandByte_v2 (b : UInt8) :
    (b &&& 0x0f = v2ProtocolVersion ∧ b >>> 4 = WireV2.frameTypeCommand) ↔ b = commandByte .v2 :=
  forall_uint8 (P := fun b => (b &&& 0x0f = 2 ∧ b >>> 4 = 4) ↔ b = 0x42) (by decide +kernel) b

lemma commandByte_v3 (b : UInt8) :
    (b &&& 0x0f = v3ProtocolVersion ∧ b >>> 4 = WireV3.frameTypeCommand) ↔ b = commandByte .v3 :=
  forall_uint8 (P := fun b => (b &&& 0x0f = 3 ∧ b >>> 4 = 0xc) ↔ b = 0xc3) (by decide +kernel) b

lemma topBit_clear (b : UInt8) : (b &&& 0x80 == 0) = decide (b < 0x80) :=
  forall_uint8 (P := fun b => (b &&& 0x80 == 0) = decide (b < 0x80)) (by decide +kernel) b

lemma parse_v2_iff {bytes : List UInt8} {frame : FrameView} :
    WireV2.parse bytes = .ok frame ↔ frame.bytes = bytes ∧ isFrame .v2 bytes = true := by
  simp only [WireV2.parse, parseWith_iff, isFrame, WireV2.validSync, topBit_clear, syncByte,
    Bool.and_eq_true, decide_eq_true_eq, beq_iff_eq, Bool.or_eq_true, reduceCtorEq, false_or,
    and_assoc]

lemma parse_v3_iff {bytes : List UInt8} {frame : FrameView} :
    WireV3.parse bytes = .ok frame ↔ frame.bytes = bytes ∧ isFrame .v3 bytes = true := by
  simp only [WireV3.parse, parseWith_iff, isFrame, WireV3.validSync, syncByte, Bool.and_eq_true,
    decide_eq_true_eq, beq_iff_eq, Bool.or_eq_true, true_or, true_and, and_assoc]

/-- `parse_command` by what it checks, without its errors. -/
lemma parseCommandWith_toOption {κ : Type} (protocolVersion frameTypeCommand : UInt8)
    (command : UInt16 → Option κ) (frame : FrameView) :
    (frame.parseCommandWith protocolVersion frameTypeCommand command).toOption =
      if frame.bytes.length = 18 ∧ frame.version = protocolVersion ∧
          frame.frameType = frameTypeCommand then
        (command (u16At frame.bytes 14)).map (frame.idcode, ·)
      else
        none := by
  unfold FrameView.parseCommandWith
  by_cases hv : frame.version = protocolVersion
  · by_cases ht : frame.frameType = frameTypeCommand
    · by_cases hl : frame.bytes.length = 18
      · cases hc : command (u16At frame.bytes 14) <;> simp [hv, ht, hl, Except.toOption]
      · simp [hv, ht, hl, Except.toOption]
    · simp [hv, ht, Except.toOption]
  · simp [hv, Except.toOption]

lemma lookup_cons_ite {κ υ : Type} [DecidableEq κ] (key k : κ) (v : υ) (table : List (κ × υ)) :
    List.lookup key ((k, v) :: table) = if key = k then some v else table.lookup key := by
  by_cases h : key = k
  · rw [h, List.lookup_cons_self, if_pos rfl]
  · rw [List.lookup_cons, beq_false_of_ne h, if_neg h]

lemma lookup_v2 (code : UInt16) :
    (WireV2.commandOfCode code).map serverCommandOfV2 = (commandTable .v2).lookup code := by
  unfold WireV2.commandOfCode
  by_cases h₁ : code = WireV2.commandStop
  · rw [h₁]; rfl
  by_cases h₂ : code = WireV2.commandStart
  · rw [h₂]; rfl
  by_cases h₃ : code = WireV2.commandHeader
  · rw [h₃]; rfl
  by_cases h₄ : code = WireV2.commandConfiguration1
  · rw [h₄]; rfl
  by_cases h₅ : code = WireV2.commandConfiguration2
  · rw [h₅]; rfl
  rw [if_neg h₁, if_neg h₂, if_neg h₃, if_neg h₄, if_neg h₅, commandTable]
  simp only [lookup_cons_ite, Option.map_none, List.lookup_nil]
  exact ((if_neg h₁).trans <| (if_neg h₂).trans <| (if_neg h₃).trans <| (if_neg h₄).trans
    (if_neg h₅)).symm

lemma lookup_v3 (code : UInt16) :
    (WireV3.commandOfCode code).map serverCommandOfV3 = (commandTable .v3).lookup code := by
  unfold WireV3.commandOfCode
  by_cases h₁ : code = WireV3.commandStop
  · rw [h₁]; rfl
  by_cases h₂ : code = WireV3.commandStart
  · rw [h₂]; rfl
  by_cases h₃ : code = WireV3.commandCapability
  · rw [h₃]; rfl
  by_cases h₄ : code = WireV3.commandStreamConfiguration
  · rw [h₄]; rfl
  rw [if_neg h₁, if_neg h₂, if_neg h₃, if_neg h₄, commandTable]
  simp only [lookup_cons_ite, Option.map_none, List.lookup_nil]
  exact ((if_neg h₁).trans <| (if_neg h₂).trans <| (if_neg h₃).trans (if_neg h₄)).symm

/-- The two arms of `next_command` in the words of the grammar. -/
lemma receiveWith_iff {κ : Type} {parse : List UInt8 → Except FrameError FrameView}
    {parseCommand : FrameView → Except FrameError (UInt16 × κ)} {toServer : κ → ServerCommand}
    {wireVersion : WireVersion} {bytes : List UInt8} {received : ReceivedCommand}
    (hparse : ∀ frame, parse bytes = .ok frame ↔
      frame.bytes = bytes ∧ isFrame wireVersion bytes = true)
    (hcommand : ∀ frame : FrameView, frame.bytes = bytes →
      (parseCommand frame).toOption.map (fun p => (p.1, toServer p.2)) =
        (commandIn wireVersion bytes).map (u16At bytes 4, ·)) :
    receiveWith parse parseCommand toServer wireVersion bytes = .ok received ↔
      isFrame wireVersion bytes = true ∧ received = outcomeOf wireVersion bytes := by
  cases hp : parse bytes with
  | error e =>
    have hno : isFrame wireVersion bytes ≠ true := by
      intro hyes
      have hlen : minFrameBytes ≤ bytes.length := by
        simp only [isFrame, Bool.and_eq_true, decide_eq_true_eq] at hyes
        exact hyes.1.1.1.1
      rw [(hparse ⟨bytes, hlen⟩).mpr ⟨rfl, hyes⟩] at hp
      cases hp
    simp [receiveWith, hp, hno]
  | ok frame =>
    obtain ⟨rfl, hyes⟩ := (hparse frame).mp hp
    have hc := hcommand frame rfl
    simp only [receiveWith, hp, hyes, true_and, outcomeOf]
    cases hq : parseCommand frame with
    | error e =>
      rw [hq] at hc
      cases hin : commandIn wireVersion frame.bytes with
      | none => exact ⟨fun h => (Except.ok.inj h).symm, fun h => h ▸ rfl⟩
      | some command => simp [hin, Except.toOption] at hc
    | ok request =>
      rw [hq] at hc
      cases hin : commandIn wireVersion frame.bytes with
      | none => simp [hin, Except.toOption] at hc
      | some command =>
        simp only [hin, Except.toOption, Option.map_some, Option.some.injEq,
          Prod.mk.injEq] at hc
        rw [← hc.1, ← hc.2]
        exact ⟨fun h => (Except.ok.inj h).symm, fun h => h ▸ rfl⟩

/-- What `next_command` makes of the bytes of one frame. -/
theorem receive_iff (wireVersion : WireVersion) (bytes : List UInt8) (received : ReceivedCommand) :
    receive wireVersion bytes = .ok received ↔
      isFrame wireVersion bytes = true ∧ received = outcomeOf wireVersion bytes := by
  cases wireVersion with
  | v2 =>
    refine receiveWith_iff (fun frame => parse_v2_iff) fun frame hframe => ?_
    subst hframe
    rw [WireV2.parseCommand, parseCommandWith_toOption, commandIn, ← lookup_v2]
    have hbyte : (frame.bytes.length = 18 ∧ frame.version = v2ProtocolVersion ∧
        frame.frameType = WireV2.frameTypeCommand) ↔
        (frame.bytes.length = 18 ∧ frame.bytes.getD 1 0 = commandByte .v2) :=
      and_congr_right fun _ => commandByte_v2 (frame.bytes.getD 1 0)
    by_cases h : frame.bytes.length = 18 ∧ frame.bytes.getD 1 0 = commandByte .v2
    · rw [if_pos h, if_pos (hbyte.mpr h), Option.map_map, Option.map_map]
      rfl
    · rw [if_neg h, if_neg fun h' => h (hbyte.mp h')]
      rfl
  | v3 =>
    refine receiveWith_iff (fun frame => parse_v3_iff) fun frame hframe => ?_
    subst hframe
    rw [WireV3.parseCommand, parseCommandWith_toOption, commandIn, ← lookup_v3]
    have hbyte : (frame.bytes.length = 18 ∧ frame.version = v3ProtocolVersion ∧
        frame.frameType = WireV3.frameTypeCommand) ↔
        (frame.bytes.length = 18 ∧ frame.bytes.getD 1 0 = commandByte .v3) :=
      and_congr_right fun _ => commandByte_v3 (frame.bytes.getD 1 0)
    by_cases h : frame.bytes.length = 18 ∧ frame.bytes.getD 1 0 = commandByte .v3
    · rw [if_pos h, if_pos (hbyte.mpr h), Option.map_map, Option.map_map]
      rfl
    · rw [if_neg h, if_neg fun h' => h (hbyte.mp h')]
      rfl

/-! ### A frame of the grammar is a command -/

lemma declaredSize_take {bytes : List UInt8} {n : Nat} (h : 4 ≤ n) :
    FrameView.declaredSize (bytes.take n) = FrameView.declaredSize bytes := by
  have h₂ : (bytes.take n).getD 2 0 = bytes.getD 2 0 := by
    rw [List.getD_eq_getElem?_getD, List.getElem?_take_of_lt (by omega),
      List.getD_eq_getElem?_getD]
  have h₃ : (bytes.take n).getD 3 0 = bytes.getD 3 0 := by
    rw [List.getD_eq_getElem?_getD, List.getElem?_take_of_lt (by omega),
      List.getD_eq_getElem?_getD]
  simp only [FrameView.declaredSize, u16At, h₂, h₃]

lemma declaredSize_append {bytes : List UInt8} (h : 4 ≤ bytes.length) (more : List UInt8) :
    FrameView.declaredSize (bytes ++ more) = FrameView.declaredSize bytes := by
  have hprefix : FrameView.declaredSize ((bytes ++ more).take bytes.length) =
      FrameView.declaredSize (bytes ++ more) := declaredSize_take h
  rw [← hprefix, List.take_left]

lemma commandTable_lookup {wireVersion : WireVersion} {code : UInt16} {command : ServerCommand} :
    (commandTable wireVersion).lookup code = some command ↔
      (code, command) ∈ commandTable wireVersion := by
  constructor
  · intro h
    obtain ⟨l₁, l₂, hl, -⟩ := List.lookup_eq_some_iff.mp h
    rw [hl]
    exact List.mem_append_right _ List.mem_cons_self
  · intro h
    have hall : ∀ p ∈ commandTable wireVersion,
        (commandTable wireVersion).lookup p.1 = some p.2 := by
      cases wireVersion <;> decide
    exact hall _ h

lemma commandIn_eq_some {wireVersion : WireVersion} {frame : List UInt8}
    {command : ServerCommand} :
    commandIn wireVersion frame = some command ↔
      frame.length = 18 ∧ frame.getD 1 0 = commandByte wireVersion ∧
        (u16At frame 14, command) ∈ commandTable wireVersion := by
  unfold commandIn
  by_cases h : frame.length = 18 ∧ frame.getD 1 0 = commandByte wireVersion
  · rw [if_pos h, commandTable_lookup]
    exact ⟨fun hm => ⟨h.1, h.2, hm⟩, fun hm => hm.2.2⟩
  · rw [if_neg h]
    exact ⟨fun hm => (nomatch hm), fun hm => (h ⟨hm.1, hm.2.1⟩).elim⟩

/-- A command's byte of frame type and version has its top bit clear in version 2. -/
lemma isFrame_iff {wireVersion : WireVersion} {frame : List UInt8} (hlen : frame.length = 18)
    (hbyte : frame.getD 1 0 = commandByte wireVersion) :
    isFrame wireVersion frame = true ↔
      frame.getD 0 0 = 0xaa ∧ u16At frame 2 = 18 ∧ checksumMatches frame = true := by
  have htop : (wireVersion == .v3 || decide (commandByte wireVersion < 0x80)) = true := by
    cases wireVersion <;> decide
  have hsize : (u16At frame 2).toNat = 18 ↔ u16At frame 2 = 18 :=
    ⟨fun h => UInt16.toNat_inj.mp h, fun h => h ▸ rfl⟩
  simp only [isFrame, hlen, hbyte, htop, FrameView.declaredSize, Bool.and_eq_true, beq_iff_eq,
    decide_eq_true_eq, hsize, and_assoc, and_true, true_and, Nat.reduceLeDiff]

/-- The bytes of a command frame, by name. -/
def commandBytes (sync kind size₁ size₂ id₁ id₂ : UInt8) (stamp : List UInt8)
    (code₁ code₂ crc₁ crc₂ : UInt8) : List UInt8 :=
  [sync, kind, size₁, size₂, id₁, id₂] ++ stamp ++ [code₁, code₂] ++ [crc₁, crc₂]

lemma eighteen_bytes {frame : List UInt8} (h : frame.length = 18) :
    ∃ sync kind size₁ size₂ id₁ id₂ stamp code₁ code₂ crc₁ crc₂, stamp.length = 8 ∧
      frame = commandBytes sync kind size₁ size₂ id₁ id₂ stamp code₁ code₂ crc₁ crc₂ := by
  match frame, h with
  | [sync, kind, size₁, size₂, id₁, id₂, a, b, c, d, e, f, g, h, code₁, code₂, crc₁, crc₂], _ =>
    exact ⟨sync, kind, size₁, size₂, id₁, id₂, [a, b, c, d, e, f, g, h], code₁, code₂, crc₁, crc₂,
      rfl, rfl⟩

lemma outcomeOf_accepted {wireVersion : WireVersion} {frame : List UInt8} {idcode : UInt16}
    {command : ServerCommand} :
    outcomeOf wireVersion frame = .accepted ⟨idcode, command⟩ ↔
      commandIn wireVersion frame = some command ∧ u16At frame 4 = idcode := by
  unfold outcomeOf
  cases commandIn wireVersion frame <;> simp [and_comm]

/-- What `next_command` checks of the bytes of a command frame. -/
lemma commandBytes_accepted {wireVersion : WireVersion} {sync kind size₁ size₂ id₁ id₂ : UInt8}
    {stamp : List UInt8} {code₁ code₂ crc₁ crc₂ : UInt8} (hstamp : stamp.length = 8)
    {idcode : UInt16} {command : ServerCommand} {frame : List UInt8}
    (hframe : frame = commandBytes sync kind size₁ size₂ id₁ id₂ stamp code₁ code₂ crc₁ crc₂) :
    (isFrame wireVersion frame = true ∧ outcomeOf wireVersion frame = .accepted ⟨idcode, command⟩) ↔
      sync = 0xaa ∧ kind = commandByte wireVersion ∧ u16FromBeBytes size₁ size₂ = 18 ∧
        u16FromBeBytes id₁ id₂ = idcode ∧
        (u16FromBeBytes code₁ code₂, command) ∈ commandTable wireVersion ∧
        crc16Ccitt ([sync, kind, size₁, size₂, id₁, id₂] ++ stamp ++ [code₁, code₂]) =
          u16FromBeBytes crc₁ crc₂ := by
  have hlen : frame.length = 18 := by
    rw [hframe, commandBytes]
    simp only [List.length_append, List.length_cons, List.length_nil, hstamp]
  have hkind : frame.getD 1 0 = kind := by rw [hframe]; rfl
  have hcode : u16At frame 14 = u16FromBeBytes code₁ code₂ := by
    have h := u16At_append ([sync, kind, size₁, size₂, id₁, id₂] ++ stamp) code₁ code₂ [crc₁, crc₂]
    rw [List.length_append, hstamp] at h
    rw [hframe, commandBytes, List.append_assoc _ [code₁, code₂]]
    exact h
  have hcrc : checksumMatches frame = true ↔
      crc16Ccitt ([sync, kind, size₁, size₂, id₁, id₂] ++ stamp ++ [code₁, code₂]) =
        u16FromBeBytes crc₁ crc₂ := by
    rw [hframe, commandBytes]
    exact checksumMatches_append _ crc₁ crc₂
  have hsync : frame.getD 0 0 = sync := by rw [hframe]; rfl
  have hsize : u16At frame 2 = u16FromBeBytes size₁ size₂ := by rw [hframe]; rfl
  have hid : u16At frame 4 = u16FromBeBytes id₁ id₂ := by rw [hframe]; rfl
  rw [outcomeOf_accepted, commandIn_eq_some, hcode, hid, hkind]
  constructor
  · rintro ⟨hf, ⟨-, hbyte, hmem⟩, hidcode⟩
    obtain ⟨h₁, h₂, h₃⟩ := (isFrame_iff hlen (hkind.trans hbyte)).mp hf
    exact ⟨hsync ▸ h₁, hbyte, hsize ▸ h₂, hidcode, hmem, hcrc.mp h₃⟩
  · rintro ⟨h₁, hbyte, h₂, hidcode, hmem, h₃⟩
    exact ⟨(isFrame_iff hlen (hkind.trans hbyte)).mpr
      ⟨hsync.trans h₁, hsize.trans h₂, hcrc.mpr h₃⟩, ⟨hlen, hbyte, hmem⟩, hidcode⟩

/-- A frame is accepted when it is in the grammar, and as what the grammar says. -/
theorem accepted_iff (wireVersion : WireVersion) (frame : List UInt8) (idcode : UInt16)
    (command : ServerCommand) :
    (isFrame wireVersion frame = true ∧ outcomeOf wireVersion frame = .accepted ⟨idcode, command⟩) ↔
      CommandFrame wireVersion frame idcode command := by
  constructor
  · intro h
    obtain ⟨sync, kind, size₁, size₂, id₁, id₂, stamp, code₁, code₂, crc₁, crc₂, hstamp, hframe⟩ :=
      eighteen_bytes (commandIn_eq_some.mp (outcomeOf_accepted.mp h.2).1).1
    obtain ⟨rfl, rfl, hsize, rfl, hcode, hcrc⟩ := (commandBytes_accepted hstamp hframe).mp h
    have hsizes := u16ToBeBytes_fromBeBytes size₁ size₂
    rw [hsize] at hsizes
    have hpayload : commandPayload wireVersion (u16FromBeBytes id₁ id₂) stamp
        (u16FromBeBytes code₁ code₂) =
          [0xaa, commandByte wireVersion, size₁, size₂, id₁, id₂] ++ stamp ++ [code₁, code₂] := by
      rw [commandPayload, u16ToBeBytes_fromBeBytes, u16ToBeBytes_fromBeBytes]
      exact congrArg (fun sizes => [0xaa, commandByte wireVersion] ++ sizes ++ [id₁, id₂] ++
        stamp ++ [code₁, code₂]) hsizes
    refine ⟨stamp, u16FromBeBytes code₁ code₂, hstamp, hcode, ?_⟩
    rw [hpayload, hcrc, u16ToBeBytes_fromBeBytes, hframe, commandBytes]
  · rintro ⟨stamp, code, hstamp, hcode, hframe⟩
    refine (commandBytes_accepted hstamp hframe).mpr
      ⟨rfl, rfl, rfl, u16FromBeBytes_toBeBytes idcode, ?_, ?_⟩
    · rwa [u16FromBeBytes_toBeBytes]
    · rw [u16FromBeBytes_toBeBytes]
      rfl

/-! ### Draining a buffer -/

/-- What `next_command` says of the front of a buffer. -/
def commandVerdict (wireVersion : WireVersion) (limit : Nat) (bytes : List UInt8) :
    Verdict ReceivedCommand :=
  match nextFrame wireVersion limit bytes with
  | .error _ => .fail
  | .ok none => .wait
  | .ok (some (command, size)) => .item command size

lemma commandVerdict_eq (wireVersion : WireVersion) (limit : Nat) (bytes : List UInt8) :
    commandVerdict wireVersion limit bytes =
      if bytes.length < 4 then .wait
      else if FrameView.declaredSize bytes > limit then .fail
      else if bytes.length < FrameView.declaredSize bytes then .wait
      else if isFrame wireVersion (bytes.take (FrameView.declaredSize bytes)) then
        .item (outcomeOf wireVersion (bytes.take (FrameView.declaredSize bytes)))
          (FrameView.declaredSize bytes)
      else .fail := by
  simp only [commandVerdict, nextFrame]
  split_ifs with h₁ h₂ h₃ h₄
  · rfl
  · rfl
  · rfl
  · rw [(receive_iff _ _ _).mpr ⟨h₄, rfl⟩]
  · cases hr : receive wireVersion (bytes.take (FrameView.declaredSize bytes)) with
    | error e => rfl
    | ok received => exact (h₄ ((receive_iff _ _ _).mp hr).1).elim

lemma commandVerdict_item {wireVersion : WireVersion} {limit n : Nat} {bytes : List UInt8}
    {received : ReceivedCommand} :
    commandVerdict wireVersion limit bytes = .item received n ↔
      nextFrame wireVersion limit bytes = .ok (some (received, n)) := by
  unfold commandVerdict
  split <;> simp_all

/-- What the front of a buffer says once its frame is complete does not depend on what follows. -/
lemma commandVerdict_append {wireVersion : WireVersion} {limit : Nat} {bytes : List UInt8}
    (h : commandVerdict wireVersion limit bytes ≠ .wait) (more : List UInt8) :
    commandVerdict wireVersion limit (bytes ++ more) = commandVerdict wireVersion limit bytes := by
  rw [commandVerdict_eq] at h
  rw [commandVerdict_eq, commandVerdict_eq]
  split_ifs at h with h₁ h₂ h₃ h₄
  · exact (h rfl).elim
  · have hsize := declaredSize_append (Nat.not_lt.mp h₁) more
    have hlen : ¬ (bytes ++ more).length < 4 := by rw [List.length_append]; omega
    rw [if_neg hlen, if_neg h₁, hsize, if_pos h₂, if_pos h₂]
  · exact (h rfl).elim
  all_goals
    have hsize := declaredSize_append (Nat.not_lt.mp h₁) more
    have hlen : ¬ (bytes ++ more).length < 4 := by rw [List.length_append]; omega
    have hall : ¬ (bytes ++ more).length < FrameView.declaredSize bytes := by
      rw [List.length_append]; omega
    rw [if_neg hlen, if_neg h₁, hsize, if_neg h₂, if_neg h₂, if_neg hall, if_neg h₃,
      List.take_append_of_le_length (Nat.not_lt.mp h₃)]

/-- Commands are cut from a stream by a framer: more bytes change neither a command found nor an
error raised. -/
def commandFramer (wireVersion : WireVersion) (limit : Nat) :
    Framer UInt8 ReceivedCommand where
  next := commandVerdict wireVersion limit
  next_nil := rfl
  length_pos := by
    intro xs r n h
    obtain ⟨-, hpos, -⟩ := nextFrame_some (commandVerdict_item.mp h)
    omega
  length_le := by
    intro xs r n h
    obtain ⟨-, -, hle, -⟩ := nextFrame_some (commandVerdict_item.mp h)
    exact hle
  item_append := by
    intro xs r n ys h
    exact (commandVerdict_append (h ▸ nofun) ys).trans h
  fail_append := by
    intro xs ys h
    exact (commandVerdict_append (h ▸ nofun) ys).trans h

/-! ### The one-shot parser -/

/-- What a whole stream says, and where its first bad frame starts. -/
structure StreamOutcome where
  outcomes : List ReceivedCommand
  errorAt : Option Nat
  deriving DecidableEq, Repr

lemma isFrame_length {wireVersion : WireVersion} {frame : List UInt8}
    (h : isFrame wireVersion frame = true) : 16 ≤ frame.length := by
  simp only [isFrame, Bool.and_eq_true, decide_eq_true_eq] at h
  exact h.1.1.1.1

/-- Read a whole stream from `position` on, frame by frame. -/
def referenceParse (wireVersion : WireVersion) (limit : Nat) (position : Nat)
    (stream : List UInt8) : StreamOutcome :=
  let size := FrameView.declaredSize stream
  if stream.length < 4 then ⟨[], none⟩
  else if limit < size then ⟨[], some position⟩
  else if stream.length < size then ⟨[], none⟩
  else if _frame : isFrame wireVersion (stream.take size) = true then
    let rest := referenceParse wireVersion limit (position + size) (stream.drop size)
    ⟨outcomeOf wireVersion (stream.take size) :: rest.outcomes, rest.errorAt⟩
  else ⟨[], some position⟩
termination_by stream.length
decreasing_by
  have := isFrame_length _frame
  simp only [List.length_take, List.length_drop] at this ⊢
  omega

/-- The one-shot parser finds what draining the whole stream finds. -/
lemma referenceParse_eq (wireVersion : WireVersion) (limit position : Nat) (stream : List UInt8) :
    referenceParse wireVersion limit position stream =
      let d := (commandFramer wireVersion limit).drain stream
      ⟨d.items, if d.failed then some (position + d.consumed) else none⟩ := by
  induction hlen : stream.length using Nat.strong_induction_on generalizing stream position with
  | h len ih =>
    have hv := commandVerdict_eq wireVersion limit stream
    rw [referenceParse]
    split_ifs with h₁ h₂ h₃ h₄
    · rw [if_pos h₁] at hv
      rw [Framer.drain_wait hv]
      rfl
    · rw [if_neg h₁, if_pos h₂] at hv
      rw [Framer.drain_fail hv]
      rfl
    · rw [if_neg h₁, if_neg h₂, if_pos h₃] at hv
      rw [Framer.drain_wait hv]
      rfl
    · rw [if_neg h₁, if_neg h₂, if_neg h₃, if_pos h₄] at hv
      have hsize := isFrame_length h₄
      rw [List.length_take] at hsize
      rw [Framer.drain_item hv, ih (stream.drop (FrameView.declaredSize stream)).length
        (by rw [List.length_drop]; omega) _ _ rfl]
      simp only [Framer.Drained.cons, Nat.add_assoc]
      rfl
    · rw [if_neg h₁, if_neg h₂, if_neg h₃, if_neg h₄] at hv
      rw [Framer.drain_fail hv]
      rfl

/-! ### A session of chunks -/

/-- A receive buffer in use: what came out of it, how many bytes were taken from its front, and
where the first error was raised. -/
structure Reassembly where
  buffer : ReceiveBuffer
  outcomes : List ReceivedCommand
  removed : Nat
  errorAt : Option Nat

namespace Reassembly

def start (limit : Nat) : Reassembly := ⟨.new limit, [], 0, none⟩

/-- Call `next_command` until it has nothing more, or raises an error. -/
def drain (wireVersion : WireVersion) (r : Reassembly) : Reassembly :=
  match _h : r.buffer.nextCommand wireVersion with
  | .error _ => { r with errorAt := some r.removed }
  | .ok none => r
  | .ok (some (received, buffer)) =>
    drain wireVersion
      { r with
        buffer := buffer
        outcomes := r.outcomes ++ [received]
        removed := r.removed + (r.buffer.bytes.length - buffer.bytes.length) }
termination_by r.buffer.bytes.length
decreasing_by exact ReceiveBuffer.nextCommand_shorter _h

/-- A chunk arrives: it must fit, and after an error nothing more is read. -/
def receiveChunk (wireVersion : WireVersion) (r : Reassembly) (chunk : List UInt8) :
    Option Reassembly :=
  if r.errorAt.isSome then some r
  else if fits : r.buffer.bytes.length + chunk.length ≤ r.buffer.limit then
    some ({ r with buffer := r.buffer.append chunk fits }.drain wireVersion)
  else none

def receiveChunks (wireVersion : WireVersion) (limit : Nat) (chunks : List (List UInt8)) :
    Option Reassembly :=
  chunks.foldlM (receiveChunk wireVersion) (start limit)

variable {wireVersion : WireVersion} {limit : Nat}

/-- A session of chunks and the framer's session over the same bytes. -/
structure Follows (wireVersion : WireVersion) (limit : Nat) (r : Reassembly)
    (s : Framer.Session UInt8 ReceivedCommand) : Prop where
  limit : r.buffer.limit = limit
  bytes : r.buffer.bytes = s.buffer
  outcomes : r.outcomes = s.items
  removed : r.removed = s.position
  errorAt : r.errorAt = if s.failed then some s.position else none

lemma verdict_of_error {buffer : ReceiveBuffer} {e : MalformedCommand}
    (h : buffer.nextCommand wireVersion = .error e) :
    (commandFramer wireVersion buffer.limit).next buffer.bytes = .fail := by
  change commandVerdict wireVersion buffer.limit buffer.bytes = .fail
  unfold ReceiveBuffer.nextCommand at h
  unfold commandVerdict
  cases hn : nextFrame wireVersion buffer.limit buffer.bytes with
  | error e' => rfl
  | ok o => rcases o with - | ⟨received, size⟩ <;> simp [hn] at h

lemma verdict_of_none {buffer : ReceiveBuffer} (h : buffer.nextCommand wireVersion = .ok none) :
    (commandFramer wireVersion buffer.limit).next buffer.bytes = .wait := by
  change commandVerdict wireVersion buffer.limit buffer.bytes = .wait
  unfold ReceiveBuffer.nextCommand at h
  unfold commandVerdict
  cases hn : nextFrame wireVersion buffer.limit buffer.bytes with
  | error e => simp [hn] at h
  | ok o =>
    rcases o with - | ⟨received, size⟩
    · rfl
    · simp [hn] at h

/-- Draining the buffer is draining its bytes through the framer. -/
lemma drain_eq (r : Reassembly) :
    r.drain wireVersion =
      let d := (commandFramer wireVersion r.buffer.limit).drain r.buffer.bytes
      { buffer := r.buffer.dropFront d.consumed
        outcomes := r.outcomes ++ d.items
        removed := r.removed + d.consumed
        errorAt := if d.failed then some (r.removed + d.consumed) else r.errorAt } := by
  fun_induction r.drain wireVersion with
  | case1 r e h =>
    rw [Framer.drain_fail (verdict_of_error h)]
    simp [ReceiveBuffer.dropFront]
  | case2 r h =>
    rw [Framer.drain_wait (verdict_of_none h)]
    simp [ReceiveBuffer.dropFront]
  | case3 r received buffer h ih =>
    obtain ⟨size, hn, rfl⟩ := ReceiveBuffer.nextCommand_some h
    obtain ⟨-, -, hle, -⟩ := nextFrame_some hn
    have hitem : (commandFramer wireVersion r.buffer.limit).next r.buffer.bytes =
        .item received size := commandVerdict_item.mpr hn
    have hlen : r.buffer.bytes.length - (r.buffer.dropFront size).bytes.length = size := by
      simp only [ReceiveBuffer.dropFront, List.length_drop]
      omega
    rw [ih, Framer.drain_item hitem, hlen]
    simp [Framer.Drained.cons, ReceiveBuffer.dropFront, List.drop_drop, Nat.add_assoc]
    rfl

lemma Follows.receiveChunk {r r' : Reassembly} {s : Framer.Session UInt8 ReceivedCommand}
    {chunk : List UInt8} (h : Follows wireVersion limit r s)
    (hr : r.receiveChunk wireVersion chunk = some r') :
    Follows wireVersion limit r' ((commandFramer wireVersion limit).feed s chunk) := by
  unfold Reassembly.receiveChunk at hr
  cases hs : s.failed with
  | true =>
    have herr : r.errorAt.isSome = true := by rw [h.errorAt, hs]; rfl
    rw [if_pos herr] at hr
    obtain rfl := Option.some.inj hr
    rwa [Framer.feed, if_pos hs]
  | false =>
    have herr : ¬ r.errorAt.isSome = true := by rw [h.errorAt, hs]; exact Bool.noConfusion
    have hnone : r.errorAt = none := by rw [h.errorAt, hs]; rfl
    rw [if_neg herr] at hr
    split_ifs at hr with fits
    obtain rfl := Option.some.inj hr
    rw [Framer.feed, if_neg (hs ▸ Bool.noConfusion), drain_eq]
    constructor
    · exact h.limit
    · simp only [ReceiveBuffer.append, ReceiveBuffer.dropFront, h.bytes, h.limit]
    · simp only [ReceiveBuffer.append, h.bytes, h.limit, h.outcomes]
    · simp only [ReceiveBuffer.append, h.bytes, h.limit, h.removed]
    · simp only [ReceiveBuffer.append, h.bytes, h.limit, h.removed, hnone]

/-- The outcome of a session of chunks is that of the framer over the whole stream. -/
lemma follows_of_receiveChunks {chunks : List (List UInt8)} {r : Reassembly}
    (h : receiveChunks wireVersion limit chunks = some r) :
    Follows wireVersion limit r (chunks.foldl (commandFramer wireVersion limit).feed {}) := by
  induction chunks using List.reverseRecOn generalizing r with
  | nil =>
    obtain rfl : start limit = r := Option.some.inj h
    exact ⟨rfl, rfl, rfl, rfl, rfl⟩
  | append_singleton chunks chunk ih =>
    rw [receiveChunks, List.foldlM_append] at h
    obtain ⟨r₁, h₁, h₂⟩ := Option.bind_eq_some_iff.mp h
    obtain ⟨r₂, h₃, h₄⟩ := Option.bind_eq_some_iff.mp h₂
    obtain rfl := Option.some.inj h₄
    rw [List.foldl_append]
    exact (ih h₁).receiveChunk h₃

end Reassembly

open Reassembly

/-- A full buffer is never short of bytes. -/
lemma nextCommand_full {wireVersion : WireVersion} {buffer : ReceiveBuffer}
    (hmin : 4 ≤ buffer.limit) (hfull : buffer.bytes.length = buffer.limit) :
    buffer.nextCommand wireVersion ≠ .ok none := by
  intro h
  have hv := verdict_of_none h
  change commandVerdict wireVersion buffer.limit buffer.bytes = .wait at hv
  rw [commandVerdict_eq] at hv
  split_ifs at hv with h₁ h₂ h₃ <;> omega

/-- A command is accepted when the buffer starts with its frame. -/
lemma nextCommand_accepted_iff {wireVersion : WireVersion} {buffer : ReceiveBuffer}
    (hmin : 18 ≤ buffer.limit) (idcode : UInt16) (command : ServerCommand) :
    (∃ rest, buffer.nextCommand wireVersion = .ok (some (.accepted ⟨idcode, command⟩, rest))) ↔
      CommandFrame wireVersion (buffer.bytes.take 18) idcode command := by
  rw [← accepted_iff]
  constructor
  · rintro ⟨rest, h⟩
    obtain ⟨size, hn, -⟩ := ReceiveBuffer.nextCommand_some h
    obtain ⟨hsize, -, hle, -, hr⟩ := nextFrame_some hn
    obtain ⟨hframe, houtcome⟩ := (receive_iff _ _ _).mp hr
    obtain ⟨hlen, -⟩ := commandIn_eq_some.mp (outcomeOf_accepted.mp houtcome.symm).1
    obtain rfl : size = 18 := by
      rw [List.length_take] at hlen
      omega
    exact ⟨hframe, houtcome.symm⟩
  · rintro ⟨hframe, houtcome⟩
    obtain ⟨hlen, -⟩ := commandIn_eq_some.mp (outcomeOf_accepted.mp houtcome).1
    have hsize : FrameView.declaredSize buffer.bytes = 18 := by
      simp only [isFrame, Bool.and_eq_true, beq_iff_eq] at hframe
      have hdeclared := hframe.1.2
      rwa [declaredSize_take (by omega), hlen] at hdeclared
    have henough : 18 ≤ buffer.bytes.length := by
      rw [List.length_take] at hlen
      omega
    have hn : nextFrame wireVersion buffer.limit buffer.bytes =
        .ok (some (.accepted ⟨idcode, command⟩, 18)) := by
      rw [← commandVerdict_item, commandVerdict_eq, hsize, if_neg (by omega), if_neg (by omega),
        if_neg (by omega), if_pos hframe, houtcome]
    exact ⟨buffer.dropFront 18, by rw [ReceiveBuffer.nextCommand, hn]⟩

/-- Commands are found in a stream however it is cut: the outcomes, and where the first error is,
are those of the one-shot parser. A command is accepted when the buffer starts with its frame; each
command removes the size its frame declares; a full buffer is never waited on. -/
theorem command_reassembly (wireVersion : WireVersion) (limit : Nat) (hmin : 18 ≤ limit) :
    (∀ chunks r, receiveChunks wireVersion limit chunks = some r →
      ⟨r.outcomes, r.errorAt⟩ = referenceParse wireVersion limit 0 chunks.flatten ∧
        r.buffer.bytes.length ≤ limit) ∧
    ∀ buffer : ReceiveBuffer, buffer.limit = limit →
      (∀ idcode command,
        (∃ rest, buffer.nextCommand wireVersion =
          .ok (some (.accepted ⟨idcode, command⟩, rest))) ↔
            CommandFrame wireVersion (buffer.bytes.take 18) idcode command) ∧
      (∀ received rest, buffer.nextCommand wireVersion = .ok (some (received, rest)) →
        16 ≤ FrameView.declaredSize buffer.bytes ∧
          FrameView.declaredSize buffer.bytes ≤ buffer.bytes.length ∧
          rest = buffer.dropFront (FrameView.declaredSize buffer.bytes)) ∧
      (buffer.bytes.length = limit → buffer.nextCommand wireVersion ≠ .ok none) := by
  refine ⟨fun chunks r hr => ?_, fun buffer hlimit => ⟨?_, ?_, ?_⟩⟩
  · have hf := follows_of_receiveChunks hr
    have ht := Framer.took_foldl (f := commandFramer wireVersion limit) chunks
    refine ⟨?_, hf.limit ▸ r.buffer.bounded⟩
    rw [referenceParse_eq, hf.outcomes, hf.errorAt, ht.items, ht.position, ht.failed]
    simp only [Nat.zero_add]
  · exact nextCommand_accepted_iff (hlimit ▸ hmin)
  · intro received rest h
    obtain ⟨size, hn, rfl⟩ := ReceiveBuffer.nextCommand_some h
    obtain ⟨rfl, h16, hle, -⟩ := nextFrame_some hn
    exact ⟨h16, hle, rfl⟩
  · intro hfull
    exact nextCommand_full (by omega) (hfull.trans hlimit.symm)

/-- A start command in three pieces, with the front of an oversized frame behind it. -/
def splitStart : List (List UInt8) :=
  [[0xaa, 0x42, 0], [18, 0, 7, 0, 0, 0, 0, 0, 0], [0, 0, 0, 2, 135, 222], [0xaa, 0x42, 0x20, 0]]

theorem command_reassembly_splitStart :
    ∃ r, receiveChunks .v2 18 splitStart = some r ∧
      ⟨r.outcomes, r.errorAt⟩ = referenceParse .v2 18 0 splitStart.flatten := by
  have hfits : (receiveChunks .v2 18 splitStart).isSome = true := by decide +kernel
  obtain ⟨r, hr⟩ := Option.isSome_iff_exists.mp hfits
  exact ⟨r, hr, ((command_reassembly .v2 18 (by decide)).1 _ r hr).1⟩

example : referenceParse .v2 18 0 splitStart.flatten = ⟨[.accepted ⟨7, .start⟩], some 18⟩ := by
  decide +kernel

end PmuSimulator
