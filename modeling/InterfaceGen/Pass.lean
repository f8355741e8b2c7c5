import InterfaceGen.Failure

/-!
# Passes

Generation runs as a pass of the host.  A pass leaves a trace: it polls, at fixed points, whether
the host has given up, and it logs what it does.  When the host gives up is not up to the pass, so a
pass is a function of a signal, which tells for every number of polls and log entries so far whether
the host has given up by then.  What has been logged stays logged when the pass fails.

`runFrom` shows all there is to see of a pass: its result and its trace, from any trace that it may
go on with.  The lemmas at the end say what each operation does to this view.
-/

namespace InterfaceGen

/-- How important a log entry is. -/
inductive Level where
  | trace
  | debug
  | warn
  deriving DecidableEq, Repr

/-- The name of a level. -/
def Level.text : Level → String
  | trace => "TRACE"
  | debug => "DEBUG"
  | warn => "WARN"

/-- An entry of the log. -/
structure LogEntry where
  level : Level
  text : String
  deriving DecidableEq, Repr

/-- A log entry on one line. -/
def LogEntry.display (e : LogEntry) : String :=
  e.level.text ++ " " ++ e.text

/-- What a pass has done so far. -/
structure Trace where
  /-- The number of polls. -/
  polls : Nat := 0
  /-- The log entries, the first one first. -/
  log : List LogEntry := []
  deriving DecidableEq, Repr

/-- Whether the host has given up after so many polls and log entries. -/
abbrev Signal := (polls entries : Nat) → Bool

/-- The signal of a host that never gives up. -/
def Signal.never : Signal := fun _ _ => false

/-- The signal of a host that had given up before. -/
def Signal.always : Signal := fun _ _ => true

/-- A computation that polls, logs and may fail. -/
abbrev Pass := ReaderT Signal (ExceptT Failure (StateM Trace))

namespace Pass

variable {α β : Type}

/-- Fails if the host has given up. -/
def poll : Pass Unit := do
  let signal ← read
  let t ← get
  set { t with polls := t.polls + 1 }
  if signal t.polls t.log.length then throw .cancelled

/-- Logs an entry. -/
def log (level : Level) (text : String) : Pass Unit :=
  modify fun t => { t with log := t.log ++ [⟨level, text⟩] }

/-- The result or the failure of a pass. -/
def attempt (p : Pass α) : Pass (Except Failure α) :=
  fun signal => ExceptT.lift (p signal).run

/-- The result and the trace of a pass that goes on with a trace. -/
def runFrom (p : Pass α) (signal : Signal) (t : Trace) : Except Failure α × Trace :=
  (p signal).run.run t

/-- The result and the trace of a pass on its own. -/
def execute (p : Pass α) (signal : Signal) : Except Failure α × Trace :=
  p.runFrom signal {}

/-- The result of a pass on its own. -/
def result (p : Pass α) (signal : Signal) : Except Failure α :=
  (p.execute signal).1

/-! ### What each operation does -/

/-- A value leaves no trace. -/
@[simp]
theorem runFrom_pure (a : α) (signal : Signal) (t : Trace) :
    (pure a : Pass α).runFrom signal t = (.ok a, t) := rfl

/-- A failure leaves no trace. -/
@[simp]
theorem runFrom_throw (f : Failure) (signal : Signal) (t : Trace) :
    (throw f : Pass α).runFrom signal t = (.error f, t) := rfl

/-- A pass goes on with the trace of the one before it, unless that one failed. -/
theorem runFrom_bind (p : Pass α) (f : α → Pass β) (signal : Signal) (t : Trace) :
    (p >>= f).runFrom signal t =
      match p.runFrom signal t with
      | (.ok a, t) => (f a).runFrom signal t
      | (.error e, t) => (.error e, t) := by
  simp only [runFrom, bind, ReaderT.bind, ExceptT.bind, ExceptT.mk, ExceptT.run, StateT.run,
    StateT.bind]
  cases p signal t with
  | mk r t' => cases r <;> rfl

/-- Logging adds one entry and never fails. -/
@[simp]
theorem runFrom_log (level : Level) (text : String) (signal : Signal) (t : Trace) :
    (log level text).runFrom signal t =
      (.ok (), { t with log := t.log ++ [⟨level, text⟩] }) := rfl

/-- A poll is counted, and fails exactly when the host has given up by then. -/
@[simp]
theorem runFrom_poll (signal : Signal) (t : Trace) :
    poll.runFrom signal t =
      (if signal t.polls t.log.length then .error .cancelled else .ok (),
        { t with polls := t.polls + 1 }) := by
  have h : poll.runFrom signal t =
      ((if signal t.polls t.log.length then throw .cancelled else pure () : Pass Unit).runFrom
        signal { t with polls := t.polls + 1 }) := rfl
  rw [h]
  split <;> rfl

/-- An attempt never fails, and leaves the trace of what it attempts. -/
@[simp]
theorem runFrom_attempt (p : Pass α) (signal : Signal) (t : Trace) :
    p.attempt.runFrom signal t = (.ok (p.runFrom signal t).1, (p.runFrom signal t).2) := rfl

end Pass

end InterfaceGen
