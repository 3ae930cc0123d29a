import Courier.Settings

/-!
# Changing settings

The steps by which the settings of an agent are changed. A span is stored in whole milliseconds,
rounded down and no more than a word holds; a time limit that is not zero stays at least one
millisecond, and the number of requests side by side at least one.
-/

namespace Courier.Settings

/-- One step that changes settings. -/
inductive Change
  /-- Replaces all settings. -/
  | all (settings : Settings)
  /-- Sets the time limit of one request; no time at all is no limit. -/
  | timeout (limit : Span)
  /-- Sets the wait after the first attempt. -/
  | waitTime (wait : Span)
  /-- Sets the longest wait between attempts; no time at all is no bound. -/
  | maxWaitTime (wait : Span)
  /-- Sets the number of attempts. -/
  | retries (n : UInt32)
  /-- Sets how many requests of a group run side by side. -/
  | maxParallel (n : UInt64)
  /-- Sets whether a status outside the two hundreds is a failure. -/
  | failOnHttpError (flag : Bool)
  /-- Sets the content type of payloads. -/
  | postContentType (contentType : String)
  deriving DecidableEq, Repr

/-- A span in whole milliseconds, as a word holds it. -/
def storedMillis (d : Span) : UInt64 := UInt64.ofNat (min d.toMillis (UInt64.size - 1))

/-- Settings after one step. -/
def apply (s : Settings) : Change → Settings
  | .all settings => settings
  | .timeout limit =>
    { s with timeoutMs :=
        if limit.isZero then 0
        else if storedMillis limit = 0 then 1 else storedMillis limit }
  | .waitTime wait => { s with retryBackoffMs := storedMillis wait }
  | .maxWaitTime wait => { s with maxBackoffMs := storedMillis wait }
  | .retries n => { s with maxRetries := n }
  | .maxParallel n => { s with maxParallel := if n = 0 then 1 else n }
  | .failOnHttpError flag => { s with failOnHttpError := flag }
  | .postContentType contentType => { s with postContentType := contentType }

/-- Settings after a sequence of steps. -/
def applyAll (s : Settings) (changes : List Change) : Settings := changes.foldl apply s

end Courier.Settings
