import Mathlib
import PmuSimulator.Server.Serving

/-!
# Isolation of a session

Whatever a peer sends, handling it stays within its own session: no other connection is touched,
and the event loop goes on. The one exception is the wall clock: an error response carries a
timestamp, and where the clock reads a time that has none, queueing the response ends the loop.
-/

namespace PmuSimulator

open Attempt

/-! ### What is left to be sent in a run -/

lemma PlaceMove.sendable {seed : UInt64} {firstId : Nat} {v v' : SlotView}
    {due due' : Option Tick} {before log : List (Nat × Activity)} (hv : v.Delivering seed before)
    (hsend : ∀ c ∈ v.connection, Sendable v.context v.dataFrame c)
    (move : PlaceMove seed firstId v due log v' due') :
    ∀ c ∈ v'.connection, Sendable v'.context v'.dataFrame c := by
  cases move with
  | moved holds move =>
    rintro c' ⟨⟩
    exact (hsend _ holds).move hv.1 move
  | tick holds idle streams encoded =>
    rintro c' ⟨⟩
    exact ⟨(hsend _ holds).storage, fun _ => ⟨_, rfl, Nat.zero_le _⟩⟩
  | slow => exact hsend
  | closed => simp
  | lost => simp
  | encoded idle encoded =>
    intro c hc
    exact (hsend c hc).encoded ((hv.2 c hc).dataless (idle c hc))
  | opened empty fresh =>
    rintro c ⟨⟩
    exact .opened _ _ _ _

section Registered

variable {registry : Registry} {codec : ManagementCodec} {l₀ l l' : EventLoop}
  {h : List (Machine.Taken EventLoop Input (List Report))} {i : Nat} {slot : Slot}

/-- What is left to be sent to any connection can be, in every run. -/
theorem sendable_of_run (started : Started l₀) (run : (eventLoop registry codec).Run l₀ h l)
    {e : Endpoint} (he : l.server.endpoints[i]? = some e) {c : Connection}
    (hc : e.connections slot = some c) : Sendable e.toEndpointContext e.dataFrame c := by
  refine (history_of_places (I := fun v log => v.Delivering l₀.server.seed log ∧
    ∀ c ∈ v.connection, Sendable v.context v.dataFrame c) started run ?_
    (fun hfresh hv move => ⟨move.delivering hfresh hv.1, move.sendable hv.1 hv.2⟩) he slot).2 c hc
  intro e₀ he₀ slot
  refine ⟨⟨sound_of_started started he₀, ?_⟩, ?_⟩
  · simp [Endpoint.seen, connections_of_started started he₀]
  · simp [Endpoint.seen, connections_of_started started he₀]

/-! ### Events on a connection -/

lemma succeeds_closeConnection (takes : registry.Takes) (connectionId : Nat)
    (connection : Option Connection) :
    (closeConnection registry connectionId connection).Succeeds := by
  cases connection with
  | none => exact succeeds_done _ _
  | some c =>
    simp only [closeConnection, takes.deregister]
    split
    · exact succeeds_done _ _
    · exact succeeds_note _ _

lemma succeeds_keepOrClose (takes : registry.Takes) (connectionId : Nat) (keep : Bool)
    (connection : Option Connection) :
    (keepOrClose registry connectionId keep connection).Succeeds := by
  cases keep with
  | true => exact succeeds_done _ _
  | false => exact succeeds_closeConnection takes connectionId connection

lemma succeeds_dispatchConnection (takes : registry.Takes) {context : EndpointContext}
    {dataFrame : DataFrame} {readable : Bool} (writable : Bool) {answers : Answers}
    {c : Connection} (answerable : c.closeAfterFlush = false →
      Answerable context answers.wallClock (c.found readable answers.reads))
    (hlimit : c.receive.limit = context.limits.commandFrameBytes) (sound : context.Sound)
    (sendable : Sendable context dataFrame c) (connectionId : Nat) :
    (dispatchConnection registry context dataFrame connectionId readable writable answers
      (some c)).Succeeds := by
  unfold dispatchConnection
  split
  · have hserved : (onConnection (serveConnection registry context dataFrame readable writable
        answers) (some c)).Succeeds :=
      (succeeds_serveConnection takes writable answerable hlimit sound sendable).lift _ _
    exact hserved.andThen fun keep _ => succeeds_keepOrClose takes connectionId keep _
  · exact succeeds_done _ _

/-- A loop that has not ended takes every input. -/
lemma step_of_running (running : l.ended = none) (input : Input) :
    ∃ log l', (eventLoop registry codec).step l input = .ok (log, l') := by
  simp only [eventLoop, EventLoop.step, running]
  exact ⟨_, _, rfl⟩

end Registered

end PmuSimulator
