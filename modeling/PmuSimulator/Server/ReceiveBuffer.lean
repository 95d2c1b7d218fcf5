import Mathlib
import PmuSimulator.Wire.Envelope
import PmuSimulator.Wire.V2
import PmuSimulator.Wire.V3

/-!
# The receive buffer of a connection

Bytes of commands are collected up to a limit and cut into frames by the size each frame declares.
The buffer is its filled part; the bytes behind it are never looked at.
-/

namespace PmuSimulator

inductive ServerCommand where
  | stop
  | start
  | v2Header
  | v2Configuration1
  | v2Configuration2
  | v3Capability
  | v3StreamConfiguration
  deriving DecidableEq, Repr

structure BufferedCommandRequest where
  idcode : UInt16
  command : ServerCommand
  deriving DecidableEq, Repr

inductive ReceivedCommand where
  | accepted (request : BufferedCommandRequest)
  | rejected (idcode : UInt16) (wireVersion : WireVersion)
  deriving DecidableEq, Repr

structure MalformedCommand where
  idcode : Option UInt16
  deriving DecidableEq, Repr

@[ext] structure ReceiveBuffer where
  bytes : List UInt8
  limit : Nat
  bounded : bytes.length ≤ limit

def serverCommandOfV2 : WireV2.Command → ServerCommand
  | .stop => .stop
  | .start => .start
  | .header => .v2Header
  | .configuration1 => .v2Configuration1
  | .configuration2 => .v2Configuration2

def serverCommandOfV3 : WireV3.Command → ServerCommand
  | .stop => .stop
  | .start => .start
  | .capability => .v3Capability
  | .streamConfiguration => .v3StreamConfiguration

/-- The two arms of `next_command`: parse the envelope, then the command in it. -/
def receiveWith {κ : Type} (parse : List UInt8 → Except FrameError FrameView)
    (parseCommand : FrameView → Except FrameError (UInt16 × κ)) (toServer : κ → ServerCommand)
    (wireVersion : WireVersion) (frameBytes : List UInt8) : Except FrameError ReceivedCommand :=
  match parse frameBytes with
  | .error e => .error e
  | .ok frame =>
    match parseCommand frame with
    | .ok (idcode, command) => .ok (.accepted ⟨idcode, toServer command⟩)
    | .error _ => .ok (.rejected frame.idcode wireVersion)

/-- The command in the bytes of one frame; an error where the envelope is malformed. -/
def receive (wireVersion : WireVersion) (frameBytes : List UInt8) :
    Except FrameError ReceivedCommand :=
  match wireVersion with
  | .v2 => receiveWith WireV2.parse WireV2.parseCommand serverCommandOfV2 .v2 frameBytes
  | .v3 => receiveWith WireV3.parse WireV3.parseCommand serverCommandOfV3 .v3 frameBytes

def malformedCommand (bytes : List UInt8) : MalformedCommand :=
  ⟨if 6 ≤ bytes.length then some (u16At bytes 4) else none⟩

/-- `next_command` on the filled part of a buffer: the command and the size of its frame. -/
def nextFrame (wireVersion : WireVersion) (limit : Nat) (bytes : List UInt8) :
    Except MalformedCommand (Option (ReceivedCommand × Nat)) :=
  if bytes.length < 4 then .ok none
  else
    let size := FrameView.declaredSize bytes
    if size > limit then .error (malformedCommand bytes)
    else if bytes.length < size then .ok none
    else
      match receive wireVersion (bytes.take size) with
      | .error _ => .error (malformedCommand bytes)
      | .ok command => .ok (some (command, size))

namespace ReceiveBuffer

/-- `ReceiveBuffer::new`. -/
def new (limit : Nat) : ReceiveBuffer := ⟨[], limit, Nat.zero_le limit⟩

/-- The buffer without its first bytes, as `copy_within` leaves it. -/
def dropFront (buffer : ReceiveBuffer) (size : Nat) : ReceiveBuffer where
  bytes := buffer.bytes.drop size
  limit := buffer.limit
  bounded := by
    rw [List.length_drop]
    exact (Nat.sub_le _ _).trans buffer.bounded

def nextCommand (wireVersion : WireVersion) (buffer : ReceiveBuffer) :
    Except MalformedCommand (Option (ReceivedCommand × ReceiveBuffer)) :=
  match nextFrame wireVersion buffer.limit buffer.bytes with
  | .error e => .error e
  | .ok none => .ok none
  | .ok (some (command, size)) => .ok (some (command, buffer.dropFront size))

/-- The buffer with more bytes behind those it holds. -/
def append (buffer : ReceiveBuffer) (chunk : List UInt8)
    (fits : buffer.bytes.length + chunk.length ≤ buffer.limit) : ReceiveBuffer :=
  ⟨buffer.bytes ++ chunk, buffer.limit, by rwa [List.length_append]⟩

/-- The buffer after a read: what does not fit stays in the socket. -/
def extend (buffer : ReceiveBuffer) (bytes : List UInt8) : ReceiveBuffer :=
  buffer.append (bytes.take (buffer.limit - buffer.bytes.length)) (by
    have := buffer.bounded
    rw [List.length_take]
    omega)

end ReceiveBuffer

/-! ### What a frame must be to be received -/

lemma receiveWith_ok {κ : Type} {parse : List UInt8 → Except FrameError FrameView}
    {parseCommand : FrameView → Except FrameError (UInt16 × κ)} {toServer : κ → ServerCommand}
    {wireVersion : WireVersion} {bytes : List UInt8} {command : ReceivedCommand}
    (h : receiveWith parse parseCommand toServer wireVersion bytes = .ok command) :
    ∃ frame, parse bytes = .ok frame := by
  unfold receiveWith at h
  cases hp : parse bytes with
  | error e => simp [hp] at h
  | ok frame => exact ⟨frame, rfl⟩

/-- A received frame has at least the bytes of an envelope. -/
lemma receive_ok_length {wireVersion : WireVersion} {bytes : List UInt8}
    {command : ReceivedCommand} (h : receive wireVersion bytes = .ok command) :
    minFrameBytes ≤ bytes.length := by
  cases wireVersion with
  | v2 =>
    obtain ⟨frame, hf⟩ := receiveWith_ok h
    exact (parseWith_ok hf).1 ▸ frame.enough
  | v3 =>
    obtain ⟨frame, hf⟩ := receiveWith_ok h
    exact (parseWith_ok hf).1 ▸ frame.enough

/-- What `next_command` finds: the frame that starts the buffer, of at least sixteen bytes. -/
lemma nextFrame_some {wireVersion : WireVersion} {limit size : Nat} {bytes : List UInt8}
    {command : ReceivedCommand} (h : nextFrame wireVersion limit bytes = .ok (some (command, size))) :
    size = FrameView.declaredSize bytes ∧ 16 ≤ size ∧ size ≤ bytes.length ∧ size ≤ limit ∧
      receive wireVersion (bytes.take size) = .ok command := by
  simp only [nextFrame] at h
  split_ifs at h
  · cases h
  · cases h
  · cases hr : receive wireVersion (bytes.take (FrameView.declaredSize bytes)) with
    | error e => simp [hr] at h
    | ok c =>
      simp only [hr, Except.ok.injEq, Option.some.injEq, Prod.mk.injEq] at h
      obtain ⟨rfl, rfl⟩ := h
      have hlen := receive_ok_length hr
      rw [List.length_take, minFrameBytes, frameHeaderBytes, frameChecksumBytes] at hlen
      exact ⟨rfl, by omega, by omega, by omega, hr⟩

lemma ReceiveBuffer.nextCommand_some {wireVersion : WireVersion} {buffer buffer' : ReceiveBuffer}
    {command : ReceivedCommand} (h : buffer.nextCommand wireVersion = .ok (some (command, buffer'))) :
    ∃ size, nextFrame wireVersion buffer.limit buffer.bytes = .ok (some (command, size)) ∧
      buffer' = buffer.dropFront size := by
  unfold ReceiveBuffer.nextCommand at h
  split at h
  · cases h
  · cases h
  · rename_i c size hn
    simp only [Except.ok.injEq, Option.some.injEq, Prod.mk.injEq] at h
    exact ⟨size, h.1 ▸ hn, h.2.symm⟩

/-- A command taken out makes the buffer shorter. -/
lemma ReceiveBuffer.nextCommand_shorter {wireVersion : WireVersion}
    {buffer buffer' : ReceiveBuffer} {command : ReceivedCommand}
    (h : buffer.nextCommand wireVersion = .ok (some (command, buffer'))) :
    buffer'.bytes.length < buffer.bytes.length := by
  obtain ⟨size, hn, rfl⟩ := nextCommand_some h
  obtain ⟨-, h16, hle, -⟩ := nextFrame_some hn
  simp only [dropFront, List.length_drop]
  omega

end PmuSimulator
