import InterfaceGen.Generator

/-!
# Sessions

A session is one generator and one host over a list of types.  The host can give up at any time, and
stays so.  It can also set a limit: from then on it gives up as soon as a request has made as many
log entries.  The count starts anew with each request, and a limit of zero is the same as one.
-/

namespace InterfaceGen

/-- What a host asks for.  Types are given by their position. -/
inductive Request where
  /-- Give up. -/
  | cancel
  | isCancelled
  /-- Fail if the host has given up. -/
  | check
  | isAnnotated (index : Nat)
  | describe (index : Nat)
  | generate (index : Nat)
  | generateAll (indices : List Nat)
  /-- Give up once a request has made so many log entries. -/
  | cancelOnLog (entries : Nat)
  deriving DecidableEq, Repr

/-- What a host gets. -/
inductive Reply where
  | nothing
  | flag (b : Bool)
  | description (d : Description)
  | output (o : Output)
  | report (r : Report)
  | failure (f : Failure)

/-- The state of a session. -/
structure Session where
  generator : Generator
  types : List TypeDecl
  cancelled : Bool := false
  /-- The number of log entries at which the host gives up. -/
  limit : Option Nat := none

namespace Session

/-- Whether so many log entries of one request reach the limit. -/
def reached (s : Session) (entries : Nat) : Bool :=
  match s.limit with
  | none => false
  | some n => max n 1 ≤ entries

/-- When the host gives up during the next request. -/
def signal (s : Session) : Signal :=
  fun _ entries => s.cancelled || s.reached entries

/-- A pass as a request: the state after it, the reply and the log. -/
def perform {α : Type} (s : Session) (p : Pass α) (reply : α → Reply) :
    Session × Reply × List LogEntry :=
  -- The limit may be reached by the last entry, when nothing is polled any more.
  let (result, trace) := p.execute s.signal
  let reply := match result with
    | .ok a => reply a
    | .error f => .failure f
  ({ s with cancelled := s.cancelled || s.reached trace.log.length }, reply, trace.log)

/-- The answer to one request, or nothing when a position is out of range. -/
def answer? (s : Session) : Request → Option (Session × Reply × List LogEntry)
  | .cancel => some ({ s with cancelled := true }, .nothing, [])
  | .isCancelled => some (s, .flag s.cancelled, [])
  | .check => some (s, if s.cancelled then .failure .cancelled else .nothing, [])
  | .isAnnotated i => s.types[i]?.map fun t => (s, .flag (s.generator.isAnnotated t), [])
  | .describe i => s.types[i]?.map fun t => s.perform (s.generator.describe t) .description
  | .generate i => s.types[i]?.map fun t => s.perform (s.generator.generate t) .output
  | .generateAll is => do
    let types ← is.mapM (s.types[·]?)
    some (s.perform (s.generator.generateAll { types }) .report)
  | .cancelOnLog n => some ({ s with limit := some n }, .nothing, [])

/-- The answers to a list of requests, or nothing when a position is out of range. -/
def answers? (s : Session) : List Request → Option (List (Reply × List LogEntry))
  | [] => some []
  | r :: rs => do
    let (s, reply, log) ← s.answer? r
    let rest ← s.answers? rs
    some ((reply, log) :: rest)

end Session

end InterfaceGen
