-- SUMMARY: Log entries.

/-!
# Log

What the bridge has to say about its work: entries with a level and a text, in
the order in which they are written.
-/

namespace RtpBridge.Log

inductive Level where
  | debug
  | info
  | warn
  | error
deriving Repr, DecidableEq

def Level.name : Level → String
  | .debug => "DEBUG"
  | .info => "INFO"
  | .warn => "WARN"
  | .error => "ERROR"

structure Entry where
  level : Level
  text : String
deriving Repr, DecidableEq

def Entry.debug (text : String) : Entry := ⟨.debug, text⟩
def Entry.info (text : String) : Entry := ⟨.info, text⟩
def Entry.warn (text : String) : Entry := ⟨.warn, text⟩
def Entry.error (text : String) : Entry := ⟨.error, text⟩

/-- Whether a reader who wants warnings and errors sees the entry. -/
def Entry.isWarning (entry : Entry) : Bool :=
  match entry.level with
  | .warn | .error => true
  | .debug | .info => false

end RtpBridge.Log
