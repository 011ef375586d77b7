/-!
# How processes end

A process ends with an exit code or by a signal.
-/

namespace Switchboard

/-- A signal, by its number. -/
structure Signal where
  number : Nat
  deriving DecidableEq, Repr, Inhabited

namespace Signal

def kill : Signal := ⟨9⟩
def brokenPipe : Signal := ⟨13⟩
def terminate : Signal := ⟨15⟩

/-- The signals with their names. -/
def names : List (Nat × String) :=
  [(1, "SIGHUP"), (2, "SIGINT"), (3, "SIGQUIT"), (4, "SIGILL"), (5, "SIGTRAP"), (6, "SIGABRT"),
   (7, "SIGBUS"), (8, "SIGFPE"), (9, "SIGKILL"), (10, "SIGUSR1"), (11, "SIGSEGV"),
   (12, "SIGUSR2"), (13, "SIGPIPE"), (14, "SIGALRM"), (15, "SIGTERM"), (16, "SIGSTKFLT"),
   (17, "SIGCHLD"), (18, "SIGCONT"), (19, "SIGSTOP"), (20, "SIGTSTP"), (21, "SIGTTIN"),
   (22, "SIGTTOU"), (23, "SIGURG"), (24, "SIGXCPU"), (25, "SIGXFSZ"), (26, "SIGVTALRM"),
   (27, "SIGPROF"), (28, "SIGWINCH"), (29, "SIGIO"), (30, "SIGPWR"), (31, "SIGSYS")]

end Signal

/-- How a process ended. -/
inductive ExitStatus where
  | code (code : Nat)
  | signal (signal : Signal)
  deriving DecidableEq, Repr, Inhabited

namespace ExitStatus

def describe : ExitStatus → String
  | .code c => s!"exit status: {c}"
  | .signal s =>
    match Signal.names.lookup s.number with
    | some name => s!"signal: {s.number} ({name})"
    | none => s!"signal: {s.number}"

/-- The status as the system encodes it. -/
def raw : ExitStatus → Nat
  | .code c => c * 256
  | .signal s => s.number

/-- The status as traces show it. -/
def shown (s : ExitStatus) : String := s!"ExitStatus(unix_wait_status({s.raw}))"

end ExitStatus

end Switchboard
