import Mathlib
import PmuSimulator.Foundation.Success
import PmuSimulator.Server.Delivery
import PmuSimulator.Server.Emission
import PmuSimulator.Server.Segmentation

/-!
# Serving a connection

What can go wrong while a connection is served, so that the event loop ends: the registry does not
take a call, or an error response is to be queued and the wall clock reads a time that it has no
room for. Apart from these, serving a connection ends well whatever a peer sends, and whatever the
reads and writes are answered with.
-/

namespace PmuSimulator

open Attempt

/-- The registry takes every call. -/
structure Registry.Takes (registry : Registry) : Prop where
  register : ∀ token interest, registry.register token interest = .ok ()
  reregister : ∀ token interest, registry.reregister token interest = .ok ()
  deregister : ∀ token, registry.deregister token = .ok ()

lemma takes_takingRegistry : takingRegistry.Takes := ⟨fun _ _ => rfl, fun _ _ => rfl, fun _ => rfl⟩

/-- The wall clock reads a time an error response has room for: not before the epoch, and in a
second of 32 bits. -/
def ClockInRange (wallClock : SystemTime) : Prop :=
  0 ≤ wallClock ∧ wallClock.toNat / nanosPerSecond ≤ u32Max

instance decidableClockInRange (wallClock : SystemTime) : Decidable (ClockInRange wallClock) :=
  inferInstanceAs (Decidable (_ ∧ _))

lemma responseTimestamp_ok {timeBase : UInt32} {wallClock : SystemTime} :
    (∃ timestamp, responseTimestamp timeBase wallClock = .ok timestamp) ↔
      ClockInRange wallClock := by
  unfold responseTimestamp SystemTime.sinceEpoch ClockInRange
  by_cases hepoch : 0 ≤ wallClock
  · by_cases hsecond : wallClock.toNat / nanosPerSecond > u32Max
    · simp [hepoch, hsecond]
    · simp [hepoch, hsecond, Nat.not_lt.mp hsecond]
  · simp [hepoch]

/-- The frames of these bytes, if any of them is refused, can be answered at this time. -/
def Answerable (context : EndpointContext) (wallClock : SystemTime) (bytes : List UInt8) : Prop :=
  context.descriptor.wireVersion = .v3 → ClockInRange wallClock ∨
    ((serviceFramer context.descriptor.wireVersion context.limits.commandFrameBytes
      context.descriptor.streamId).drain bytes).failed = false

lemma Answerable.clock {context : EndpointContext} {wallClock : SystemTime} {stream : List UInt8}
    {streamId : UInt16} {code : WireV3.ErrorResponseCode}
    (h : Answerable context wallClock stream)
    (hv3 : context.descriptor.wireVersion = .v3)
    (refused : RefusedIn context.descriptor.wireVersion context.limits.commandFrameBytes
      context.descriptor.streamId stream streamId code) : ClockInRange wallClock := by
  refine (h hv3).resolve_right fun hnone => ?_
  cases hnone.symm.trans refused.drain.1

/-! ### What is left to be sent -/

/-- What is left to be sent can be, and where an error response may be needed there is room for
it. -/
structure Sendable (context : EndpointContext) (dataFrame : DataFrame) (c : Connection) :
    Prop where
  storage : context.descriptor.wireVersion = .v3 → c.errorFrame.isSome = true
  frame : c.pending.isPending = true → ∃ frame, pendingFrameBytes context dataFrame c = .ok frame ∧
    c.pending.offset ≤ frame.length

namespace Sendable

variable {context : EndpointContext} {dataFrame dataFrame' : DataFrame} {c c' : Connection}
  {log : List Activity}

lemma opened (connectionId token commandLimit : Nat) (acceptedAt : Instant) :
    Sendable context dataFrame
      (.new connectionId token commandLimit context.descriptor.wireVersion acceptedAt) where
  storage h := by simp [Connection.new, h]
  frame h := by cases h

/-- Every move leaves what is left to be sent in bounds. -/
lemma move (h : Sendable context dataFrame c) (sound : context.Sound)
    (move : Move context dataFrame c log c') : Sendable context dataFrame c' := by
  cases move with
  | switch now idle stays effect =>
    exact ⟨h.storage, fun hwaits => by cases idle.symm.trans hwaits⟩
  | inform now idle stays asked =>
    obtain ⟨frame, -, -, -, hoffset, hbytes⟩ :=
      pendingFrameBytes_information sound asked dataFrame (c.recordValidCommand now)
    exact ⟨h.storage, fun _ => ⟨frame, hbytes, hoffset ▸ Nat.zero_le _⟩⟩
  | respond streamId code timestamp idle stays storage =>
    exact ⟨fun _ => rfl, fun _ => ⟨_, rfl, Nat.zero_le _⟩⟩
  | @part frame count waits frames some short =>
    refine ⟨h.storage, fun _ => ⟨_, (pendingFrameBytes_withOffset _ _ _ _).trans frames, ?_⟩⟩
    have hoffset : (c.pending.withOffset (c.pending.offset + count)).offset =
        c.pending.offset + count := by
      cases hpending : c.pending with
      | none => simp [hpending, PendingFrame.isPending] at waits
      | _ => rfl
    rw [hoffset]
    exact short.le
  | finish waits frames some => exact ⟨h.storage, fun hwaits => by cases hwaits⟩
  | _ => exact ⟨h.storage, h.frame⟩

lemma moves (h : Sendable context dataFrame c) (sound : context.Sound)
    (moves : Moves context dataFrame c log c') : Sendable context dataFrame c' := by
  induction moves with
  | nil => exact h
  | snoc _ move ih => exact ih.move sound move

/-- The buffer of data frames is written anew. -/
lemma encoded (h : Sendable context dataFrame c) (hdata : c.pending.isData = false) :
    Sendable context dataFrame' c where
  storage := h.storage
  frame hwaits := by
    obtain ⟨frame, hframe, hle⟩ := h.frame hwaits
    exact ⟨frame, (pendingFrameBytes_dataFrame hdata _ _).trans hframe, hle⟩

end Sendable

/-! ### One connection -/

section Connection

variable {registry : Registry} {context : EndpointContext} {dataFrame : DataFrame}
  {stream : List UInt8} {c : Connection}

lemma succeeds_reregister (takes : registry.Takes) (writable : Bool) :
    (reregisterConnection registry writable c).Succeeds := by
  simp only [reregisterConnection, takes.reregister]
  exact ⟨(), rfl⟩

lemma succeeds_reregister_done (takes : registry.Takes) (writable : Bool) :
    ((reregisterConnection registry writable c).andThen fun _ c => .done true c).Succeeds :=
  (succeeds_reregister takes writable).andThen fun _ _ => succeeds_done _ _

lemma succeeds_refuseCommand (takes : registry.Takes) {wallClock : SystemTime}
    {wireVersion : WireVersion} (ranged : wireVersion = .v3 → ClockInRange wallClock)
    (storage : wireVersion = .v3 → c.errorFrame.isSome = true) {counter : Counter}
    {streamId : UInt16} {code : WireV3.ErrorResponseCode} :
    (refuseCommand registry context wallClock wireVersion counter streamId code c).Succeeds := by
  refine (succeeds_note _ _).andThen fun _ _ => ?_
  simp only [note_state]
  by_cases hv3 : wireVersion = .v3
  · rw [if_pos hv3]
    have hclock : ∃ timestamp, responseTimestamp context.descriptor.timeBase wallClock =
        .ok timestamp := responseTimestamp_ok.mpr (ranged hv3)
    obtain ⟨timestamp, htimestamp⟩ := hclock
    obtain ⟨frame, hframe⟩ := Option.isSome_iff_exists.mp (storage hv3)
    refine Succeeds.andThen ?_ fun _ _ => succeeds_done _ _
    simp only [queueErrorResponse, htimestamp, hframe]
    exact (succeeds_note _ _).andThen fun _ _ => succeeds_reregister takes true
  · rw [if_neg hv3]
    exact succeeds_done _ _

lemma succeeds_handleCommand (takes : registry.Takes) (command : ServerCommand) :
    (handleCommand registry context command c).Succeeds := by
  have hsettle (c : Connection) : (settleCommand registry c).Succeeds :=
    succeeds_reregister_done takes _
  have hinform : (queueInformation registry context command c).Succeeds := by
    unfold queueInformation
    cases informationPending context.descriptor.wireVersion command with
    | none => exact ⟨false, rfl⟩
    | some pending => exact (succeeds_note _ _).andThen fun _ _ => hsettle _
  unfold handleCommand
  by_cases hpending : c.pending.isPending
  · rw [if_pos hpending]
    exact ⟨false, rfl⟩
  rw [if_neg hpending]
  cases command with
  | stop => exact hsettle _
  | start => exact hsettle _
  | _ => exact hinform

variable (registry context) in
lemma handleCommand_errorFrame (command : ServerCommand) (c : Connection) :
    (handleCommand registry context command c).state.errorFrame = c.errorFrame := by
  unfold handleCommand
  by_cases hpending : c.pending.isPending
  · rw [if_pos hpending]
  rw [if_neg hpending]
  have hinform : (queueInformation registry context command c).state.errorFrame =
      c.errorFrame := by
    unfold queueInformation
    cases informationPending context.descriptor.wireVersion command with
    | none => rfl
    | some pending =>
      simp only
      rw [Attempt.andThen_state fun _ => settleCommand_state registry]
      rfl
  cases command with
  | stop => simp only [settleCommand_state]
  | start => simp only [settleCommand_state]
  | _ => exact hinform

/-- A command is refused for the wire version it is read as. -/
lemma nextCommand_version {wireVersion version : WireVersion} {buffer rest : ReceiveBuffer}
    {idcode : UInt16}
    (h : buffer.nextCommand wireVersion = .ok (some (.rejected idcode version, rest))) :
    version = wireVersion := by
  obtain ⟨size, hn, -⟩ := ReceiveBuffer.nextCommand_some h
  obtain ⟨-, -, -, -, hr⟩ := nextFrame_some hn
  obtain ⟨-, houtcome⟩ := (receive_iff _ _ _).mp hr
  unfold outcomeOf at houtcome
  split at houtcome
  · cases houtcome
  · exact (ReceivedCommand.rejected.inj houtcome).2

/-- Handling the buffered commands does not fail, whatever they are. -/
lemma succeeds_processBufferedCommands (takes : registry.Takes) {wallClock : SystemTime}
    (answerable : Answerable context wallClock stream) (clock : Nat → Instant)
    (hin : InStream context stream c)
    (storage : context.descriptor.wireVersion = .v3 → c.errorFrame.isSome = true) :
    (processBufferedCommands registry context wallClock clock c).Succeeds := by
  fun_induction processBufferedCommands registry context wallClock clock c with
  | case1 clock c hbusy => exact succeeds_done _ _
  | case2 clock c hfree malformed hn =>
    exact succeeds_refuseCommand takes (fun hv3 => answerable.clock hv3 (hin.malformed hfree hn))
      storage
  | case3 clock c hfree hn => exact succeeds_done _ _
  | case4 clock c hfree idcode wireVersion receive hn =>
    obtain rfl := nextCommand_version hn
    exact succeeds_refuseCommand (c := { c with receive }) takes
      (fun hv3 => answerable.clock hv3 (hin.rejected hfree hn).2) storage
  | case5 clock c hfree request receive hn hid =>
    exact succeeds_refuseCommand (c := { c with receive }) takes
      (fun hv3 => answerable.clock hv3 (hin.foreign hfree hn hid).2) storage
  | case6 clock c hfree request receive hn hid taken handled failure hr =>
    have hhandled : handled.Succeeds := succeeds_handleCommand takes request.command
    obtain ⟨keep, hkeep⟩ := hhandled
    cases hr.symm.trans hkeep
  | case7 clock c hfree request receive hn hid taken handled hr => exact ⟨false, rfl⟩
  | case8 clock c hfree request receive hn hid taken handled hr rest =>
    rename_i ih
    refine ih (hin.handled hfree hn (not_not.mp hid) (clock 0)) fun hv3 => ?_
    rw [handleCommand_errorFrame]
    exact storage hv3

lemma succeeds_readConnection (takes : registry.Takes) {answers : Answers}
    (answerable : c.closeAfterFlush = false →
      Answerable context answers.wallClock (stream ++ c.taken answers.reads))
    (hin : InStream context stream c)
    (storage : context.descriptor.wireVersion = .v3 → c.errorFrame.isSome = true) :
    (readConnection registry context answers c).Succeeds := by
  unfold readConnection
  by_cases hclose : c.closeAfterFlush = true
  · rw [if_pos hclose]
    exact succeeds_done _ _
  rw [if_neg hclose]
  rw [Bool.not_eq_true] at hclose
  have hread := hin.taken hclose answers.reads
  generalize c.receive.readFrom answers.reads = read at hread ⊢
  dsimp only
  refine (succeeds_note _ _).andThen fun _ _ => ?_
  rcases read with ⟨kind | result, receive, answered⟩
  · exact ⟨false, rfl⟩
  have hprocess : (processBufferedCommands registry context answers.wallClock answers.readClock
      { c with receive }).Succeeds :=
    succeeds_processBufferedCommands takes (answerable hclose) answers.readClock hread storage
  cases result with
  | «open» => exact hprocess
  | closed => exact succeeds_done _ _
  | closedWithBufferedData => exact hprocess.andThen fun _ _ => succeeds_done _ _

lemma succeeds_frameWritten (takes : registry.Takes) {answers : Answers}
    (answerable : c.closeAfterFlush = false → Answerable context answers.wallClock stream)
    (hin : InStream context stream c)
    (storage : context.descriptor.wireVersion = .v3 → c.errorFrame.isSome = true)
    (bytes : List UInt8) : (frameWritten registry context answers bytes c).Succeeds := by
  unfold frameWritten
  refine Succeeds.andThen ⟨(), rfl⟩ fun _ _ => ?_
  simp only
  by_cases hclose : c.closeAfterFlush = true
  · rw [if_pos hclose]
    exact succeeds_done _ _
  rw [if_neg hclose]
  refine Succeeds.andThen ?_ fun keep _ => ?_
  · exact succeeds_processBufferedCommands takes (answerable (Bool.eq_false_iff.mpr hclose))
      answers.writeClock (hin.withPending .none) storage
  · cases keep with
    | false => exact succeeds_done _ _
    | true =>
      simp only [Bool.not_true, Bool.false_eq_true, if_false]
      split
      · exact succeeds_done _ _
      · exact succeeds_reregister_done takes false

/-- A write does not fail where what follows a complete frame does not. -/
lemma succeeds_flush (takes : registry.Takes) {answers : Answers}
    (frame : c.pending.isPending = true → ∃ frame, pendingFrameBytes context dataFrame c =
      .ok frame ∧ c.pending.offset ≤ frame.length)
    (hwritten : ∀ bytes, (frameWritten registry context answers bytes c).Succeeds) :
    (flushConnection registry context dataFrame answers c).Succeeds := by
  have hshort (bytes : List UInt8) (c : Connection) :
      ((Attempt.note (.wrote bytes false) c).andThen fun _ c =>
        (reregisterConnection registry true c).andThen fun _ c => .done true c :
        ConnectionAttempt Bool).Succeeds :=
    (succeeds_note _ _).andThen fun _ _ => succeeds_reregister_done takes true
  unfold flushConnection
  cases hwaits : c.pending.isPending with
  | false => exact succeeds_done _ _
  | true =>
    obtain ⟨frame, hframe, hle⟩ := frame hwaits
    simp only [Bool.not_true, Bool.false_eq_true, if_false, hframe, if_neg (Nat.not_lt.mpr hle)]
    cases answers.write with
    | failed kind =>
      cases kind with
      | wouldBlock => exact hshort _ _
      | _ => exact ⟨false, rfl⟩
    | accepts count =>
      simp only
      split_ifs
      · exact ⟨false, rfl⟩
      · exact hwritten _
      · exact hshort _ _

lemma succeeds_flushConnection (takes : registry.Takes) {answers : Answers}
    (answerable : c.closeAfterFlush = false → Answerable context answers.wallClock stream)
    (hin : InStream context stream c) (sendable : Sendable context dataFrame c) :
    (flushConnection registry context dataFrame answers c).Succeeds :=
  succeeds_flush takes sendable.frame fun bytes =>
    succeeds_frameWritten takes answerable hin sendable.storage bytes

variable (c) in
/-- What a readable event finds in the stream of a connection: what is buffered and what is read. -/
def Connection.found (readable : Bool) (reads : List ReadAnswer) : List UInt8 :=
  c.receive.bytes ++ if readable then c.taken reads else []

lemma InStream.buffered (hlimit : c.receive.limit = context.limits.commandFrameBytes) :
    InStream context c.receive.bytes c := ⟨hlimit, fun _ => ⟨0, .start, rfl⟩⟩

/-- Serving an event on a connection does not fail, if what is refused in it can be answered. -/
theorem succeeds_serveConnection (takes : registry.Takes) {answers : Answers}
    {readable : Bool} (writable : Bool)
    (answerable : c.closeAfterFlush = false →
      Answerable context answers.wallClock (c.found readable answers.reads))
    (hlimit : c.receive.limit = context.limits.commandFrameBytes) (sound : context.Sound)
    (sendable : Sendable context dataFrame c) :
    (serveConnection registry context dataFrame readable writable answers c).Succeeds := by
  have hin : InStream context c.receive.bytes c := .buffered hlimit
  unfold serveConnection
  cases readable with
  | false =>
    refine Succeeds.andThen (succeeds_done _ _) fun _ hkeep => ?_
    obtain rfl := Except.ok.inj hkeep
    simp only [Connection.found, Bool.false_eq_true, if_false, List.append_nil] at answerable
    cases writable with
    | false => exact succeeds_done _ _
    | true =>
      simp only [Bool.not_true, Bool.false_eq_true, if_false, if_true]
      refine (succeeds_note _ _).andThen fun _ _ => ?_
      exact succeeds_flushConnection takes answerable hin sendable
  | true =>
    have hread : (readConnection registry context answers c).Succeeds :=
      succeeds_readConnection takes answerable hin sendable.storage
    refine hread.andThen fun keep hkeep => ?_
    cases keep with
    | false => exact succeeds_done _ _
    | true =>
      cases writable with
      | false => exact succeeds_done _ _
      | true =>
        simp only [Bool.not_true, Bool.false_eq_true, if_false, if_true]
        refine (succeeds_note _ _).andThen fun _ _ => ?_
        refine succeeds_flushConnection takes (fun hopen => ?_)
          ((announces_readConnection hin).keeps hkeep)
          (sendable.moves sound (moving_readConnection answers))
        refine answerable (Bool.eq_false_iff.mpr fun hclose => ?_)
        simp only [readConnection, hclose, if_true] at hopen
        cases hclose.symm.trans hopen

end Connection

end PmuSimulator
