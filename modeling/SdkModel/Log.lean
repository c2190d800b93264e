/-!
# Logged computations

Building a model writes log records and may fail. The records that were written before a failure
stay written, so a computation answers its log in either case.
-/

namespace SdkModel

inductive LogLevel where
  | debug
  | info
  | warning
deriving DecidableEq, Repr

def LogLevel.word : LogLevel → String
  | .debug => "DEBUG"
  | .info => "INFO"
  | .warning => "WARNING"

/-- The level reaches the threshold of warnings. -/
def LogLevel.isWarning : LogLevel → Bool
  | .warning => true
  | _ => false

structure LogRecord where
  level : LogLevel
  message : String
deriving DecidableEq, Repr

abbrev Log := List LogRecord

/-- The records that are shown when debug output is off. -/
def Log.warnings (log : Log) : Log := log.filter (·.level.isWarning)

/-- An outcome together with the log that was written up to it. -/
structure Logged (ε α : Type) where
  log : Log
  outcome : Except ε α

namespace Logged

variable {ε α β : Type}

def ok (a : α) : Logged ε α := ⟨[], .ok a⟩

def fail (e : ε) : Logged ε α := ⟨[], .error e⟩

/-- Goes on with the result of a computation; a failure ends it with the log written so far. -/
def andThen (x : Logged ε α) (f : α → Logged ε β) : Logged ε β :=
  match x.outcome with
  | .ok a => ⟨x.log ++ (f a).log, (f a).outcome⟩
  | .error e => ⟨x.log, .error e⟩

instance : Monad (Logged ε) where
  pure := ok
  bind := andThen

def ofExcept (x : Except ε α) : Logged ε α := ⟨[], x⟩

instance : MonadLift (Except ε) (Logged ε) where
  monadLift := ofExcept

instance : MonadExceptOf ε (Logged ε) where
  throw := fail
  tryCatch x handler := match x.outcome with
    | .ok a => ⟨x.log, .ok a⟩
    | .error e => ⟨x.log ++ (handler e).log, (handler e).outcome⟩

def write (level : LogLevel) (message : String) : Logged ε Unit := ⟨[⟨level, message⟩], .ok ()⟩

end Logged

end SdkModel
