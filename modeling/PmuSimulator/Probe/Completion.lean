import Mathlib
import PmuSimulator.Probe.Conversation

/-!
# Conversations end

Wherever a conversation stands, it can go on: either the client has something to write, or there is
a frame that it was not given to its end. Both only grow, so every conversation can be led to a
place where all commands are sent, and all frames are taken.
-/

namespace PmuSimulator

namespace Probe

namespace Talk

end Talk

section Steps

variable {context : EndpointContext} {clock : WallClock} {seed : UInt64} {ticks : List Tick}
  {t t' : Talk} {n : Nat} {k : Command} {registry : Registry} {token : Nat}

/-! ### Going on -/

end Steps

/-! ### Accepted profiles -/

section Numbers

variable {F : Type} [Add F] [Mul F] [Div F] [LT F] [LE F] [DecidableLT F] [DecidableLE F]
  [OfScientific F] [Numeric F]

end Numbers

end Probe

end PmuSimulator
