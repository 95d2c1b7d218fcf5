import Mathlib
import PmuSimulator.Server.Endpoint

/-!
# Management connections

One request is read from a connection and one response is written to it, in chunks.
-/

namespace PmuSimulator

/-- `MAX_REQUEST_BYTES`: eight KiB. -/
def maxRequestBytes : Nat := 8 * 1024

/-- `MANAGEMENT_WRITE_CHUNK_BYTES`: eight KiB. -/
def managementWriteChunkBytes : Nat := 8 * 1024

structure ManagementConnection where
  connectionId : Nat
  token : Nat
  receive : List UInt8
  response : Option (List UInt8)
  responseOffset : Nat
  deriving DecidableEq, Repr

/-- One of the `MANAGEMENT_CONNECTION_LIMIT` slots. -/
abbrev ManagementSlot := Fin 8

instance neZeroManagementSlots : NeZero 8 := ⟨Nat.succ_ne_zero 7⟩

structure ManagementListener where
  connections : ManagementSlot → Option ManagementConnection
  rejectedConnections : Nat

inductive ManagementReadResult where
  | incomplete
  | request (request : ManagementRequest)
  | response (response : ManagementResponse)
  | closed

namespace ManagementConnection

/-- Read until the buffer is full, or there is nothing to read; `true` at the end of the stream. -/
def readFrom (c : ManagementConnection) :
    List ReadAnswer → Except ErrorKind Bool × ManagementConnection
  | [] => (.ok false, c)
  | answer :: answers =>
    if c.receive.length = maxRequestBytes then (.ok false, c)
    else
      match answer with
      | .data [] => (.ok true, c)
      | .data (b :: bytes) =>
        { c with
          receive := c.receive ++ (b :: bytes).take (maxRequestBytes - c.receive.length) }.readFrom
            answers
      | .failed .wouldBlock => (.ok false, c)
      | .failed kind => (.error kind, c)

/-- `read_management_connection`. -/
def read (codec : ManagementCodec) (reads : List ReadAnswer) (c : ManagementConnection) :
    Except ErrorKind ManagementReadResult × ManagementConnection :=
  match c.readFrom reads with
  | (.error kind, c) => (.error kind, c)
  | (.ok closed, c) =>
    if c.receive.isEmpty && closed then (.ok .closed, c)
    else
      match codec.parse c.receive with
      | .complete request => (.ok (.request request), c)
      | .incomplete =>
        (.ok (if closed then .response (.parseError .malformedRequest) else .incomplete), c)
      | .error e => (.ok (.response (.parseError e)), c)

end ManagementConnection

/-- An attempt on one management connection. -/
abbrev ManagementAttempt (α : Type) := Attempt Failure ManagementConnection Report α

section Registered

variable (registry : Registry)

/-- `queue_management_response`. -/
def queueManagementResponse (codec : ManagementCodec) (response : ManagementResponse)
    (c : ManagementConnection) : ManagementAttempt Unit :=
  (Attempt.note (.answered c.connectionId response)
    { c with response := some (codec.encode response), responseOffset := 0 }).andThen fun _ c =>
  match registry.reregister c.token .writable with
  | .error kind => .failed (ioFailure kind) c
  | .ok () => .done () c

/-- `flush_management_connection`; `true` where the connection is to be kept open. -/
def flushManagementConnection (write : WriteAnswer) (c : ManagementConnection) :
    ManagementAttempt (Except ErrorKind Bool) :=
  let keep (c : ManagementConnection) : Except ErrorKind Bool :=
    (registry.reregister c.token .writable).map fun _ => true
  match c.response with
  | none => .done (.ok false) c
  | some response =>
    if response.length < c.responseOffset then
      .failed (.panic "slice index starts behind its end") c
    else
      let chunk := (response.drop c.responseOffset).take managementWriteChunkBytes
      match write with
      | .failed .wouldBlock => .done (keep c) c
      | .failed _ => .done (.ok false) c
      | .accepts count =>
        let written := min count chunk.length
        if written = 0 then .done (.ok false) c
        else
          let c := { c with responseOffset := c.responseOffset + written }
          if c.responseOffset = response.length then .done (.ok false) c else .done (keep c) c

end Registered

/-! ### The listener -/

namespace ManagementListener

def managementSlots : List ManagementSlot := List.finRange 8

def setSlot (m : ManagementListener) (slot : ManagementSlot)
    (connection : Option ManagementConnection) : ManagementListener :=
  { m with connections := Function.update m.connections slot connection }

def freeSlot (m : ManagementListener) : Option ManagementSlot :=
  managementSlots.find? fun slot => (m.connections slot).isNone

/-- Whether a slot holds the connection of an identifier. -/
def holds (m : ManagementListener) (slot : ManagementSlot) (connectionId : Nat) : Bool :=
  (m.connections slot).any fun c => c.connectionId = connectionId

def reject (m : ManagementListener) : ManagementListener :=
  { m with rejectedConnections := m.rejectedConnections + 1 }

end ManagementListener

section Registered

variable (registry : Registry)

/-- One stream `accept_management_connections` was given. -/
def admitManagementConnection (s : ManagementListener × Nat) : ManagementListener × Nat :=
  match s.1.freeSlot with
  | none => (s.1.reject, s.2)
  | some slot =>
    match checkedAdd s.2 1 with
    | none => (s.1.reject, s.2)
    | some nextId =>
      match managementConnectionToken slot s.2 with
      | .error _ => (s.1.reject, s.2)
      | .ok token =>
        match registry.register token .readable with
        | .error _ => (s.1.reject, s.2)
        | .ok () =>
          (s.1.setSlot slot (some
            { connectionId := s.2, token, receive := [], response := none,
              responseOffset := 0 }), nextId)

/-- `accept_management_connections`: at most `turns` accepts. No socket options are set here, and no
time is taken. -/
def acceptManagementConnections :
    Nat → List AcceptAnswer → ManagementListener × Nat →
      Attempt Failure (ManagementListener × Nat) AcceptActivity Unit
  | 0, _, s => .done () s
  | _ + 1, [], s => .note (.called (.failed .wouldBlock)) s
  | _ + 1, .failed .wouldBlock :: _, s => .note (.called (.failed .wouldBlock)) s
  | _ + 1, .failed kind :: _, s => ⟨.error (ioFailure kind), s, [.called (.failed kind)]⟩
  | turns + 1, .connected configured acceptedAt :: answers, s =>
    (Attempt.note (.called (.connected configured acceptedAt)) s).andThen fun _ s =>
      acceptManagementConnections turns answers (admitManagementConnection registry s)

/-- `close_management_connection`. -/
def closeManagementConnection (slot : ManagementSlot) (connectionId : Nat)
    (m : ManagementListener) : Attempt Failure ManagementListener Report Unit :=
  match m.connections slot with
  | none => .done () m
  | some c =>
    if c.connectionId ≠ connectionId then .done () m
    else
      match registry.deregister c.token with
      | .error kind => .failed (ioFailure kind) (m.setSlot slot none)
      | .ok () => .done () (m.setSlot slot none)

end Registered

end PmuSimulator
