import RuleDigest.Summary

/-!
Why a run does not come to a summary, as a chain of messages from what was attempted to
its cause.  While a run waits for a pipe it has no cause to give.
-/

namespace RuleDigest

/-- The messages on what keeps a file from being read. -/
def ReadFault.chain : ReadFault → List Text
  | refused cause => [cause.message]
  | waits => []

namespace WalkError

def message (error : WalkError) : Text :=
  "IO error for operation on ".toList ++ Utf8.decodeLossy error.path ++ ": ".toList ++
    error.cause.message

def chain (error : WalkError) : List Text :=
  [error.message, error.cause.message]

end WalkError

namespace ScanError

def message : ScanError → Text
  | notADirectory root => "rules path is not a directory: ".toList ++ Utf8.decodeLossy root
  | unlistable root _ => "cannot read rules directory ".toList ++ Utf8.decodeLossy root

def chain : ScanError → List Text
  | notADirectory root => [message (notADirectory root)]
  | unlistable root source => message (unlistable root source) :: source.chain

end ScanError

namespace ResultError

def message (error : ResultError) : Text :=
  "cannot read result file ".toList ++ Utf8.decodeLossy error.path

def chain (error : ResultError) : List Text :=
  error.message :: error.fault.chain

end ResultError

namespace CollectError

def chain : CollectError → List Text
  | scan error => error.chain
  | result error => error.chain

/-- A result file is waited for. -/
def waits : CollectError → Bool
  | result ⟨_, .waits⟩ => true
  | _ => false

end CollectError

namespace ConfigError

def message : ConfigError → Text
  | unreadable path _ => "cannot read config ".toList ++ Utf8.decodeLossy path
  | invalid path _ => "invalid config ".toList ++ Utf8.decodeLossy path

/-- The chain of an error, as far as it does not describe a fault in a document. -/
def chain : ConfigError → List Text
  | unreadable path fault => message (unreadable path fault) :: fault.chain
  | invalid path fault => [message (invalid path fault)]

/-- The configuration file is waited for. -/
def waits : ConfigError → Bool
  | unreadable _ .waits => true
  | _ => false

end ConfigError

/-- Why a run does not come to a summary. -/
inductive Failure where
  | config (error : ConfigError)
  | collect (statistic : Text) (error : CollectError)
  deriving Repr

namespace Failure

def chain : Failure → List Text
  | config error => error.chain
  | collect statistic error =>
      ("failed to collect '".toList ++ statistic ++ ['\'']) :: error.chain

/-- The fault in a document with whose description the chain would go on.  The words
are those of the reader of documents. -/
def fault? : Failure → Option ConfigFault
  | config (.invalid _ fault) => some fault
  | _ => none

/-- The run has not failed but waits without an end. -/
def waits : Failure → Bool
  | config error => error.waits
  | collect _ error => error.waits

/-- What is printed of a failure, with its line left open before the description of a
fault in a document. -/
def report (failure : Failure) : Text :=
  "error: ".toList ++ ": ".toList.intercalate failure.chain ++
    if failure.fault?.isSome then [] else ['\n']

end Failure

end RuleDigest
