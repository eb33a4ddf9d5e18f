import RegistryBench.Error

/-!
# Settings

How long the bench waits for a service, how often it asks, and on which host it listens. Settings
are looked up by name; one that is missing or blank has its usual value.
-/

namespace RegistryBench

/-- The settings of the bench. -/
structure Settings where
  /-- How long to wait until a service is ready. -/
  readyTimeout : Duration := ⟨30, 0⟩
  /-- How long to pause between two attempts. -/
  pollInterval : Duration := ⟨0, 100000000⟩
  /-- The host to listen on. -/
  listenHost : String := "127.0.0.1"
deriving DecidableEq

namespace Settings

/-- The name of the ready timeout. -/
def readyTimeoutKey : String := "REGHARNESS_READY_TIMEOUT"

/-- The name of the poll interval. -/
def pollIntervalKey : String := "REGHARNESS_POLL_INTERVAL"

/-- The name of the host. -/
def listenHostKey : String := "REGHARNESS_LISTEN_HOST"

/-- The duration that a setting gives, or else the usual one. -/
def durationOr (usual : Duration) (key : String) (raw : Option String) :
    Except Error Duration :=
  match raw with
  | none => .ok usual
  | some raw =>
    match Duration.parse (Text.trim raw) with
    | .ok duration => .ok duration
    | .error fault => .error (.setting key raw fault)

/-- The settings that a lookup gives. -/
def ofLookup (lookup : String → Option String) : Except Error Settings := do
  let given (key : String) : Option String := (lookup key).filter fun raw => Text.trim raw ≠ ""
  let usual : Settings := {}
  return {
    readyTimeout := ← durationOr usual.readyTimeout readyTimeoutKey (given readyTimeoutKey)
    pollInterval := ← durationOr usual.pollInterval pollIntervalKey (given pollIntervalKey)
    listenHost := ((given listenHostKey).map Text.trim).getD usual.listenHost }

/-- The settings with another ready timeout. -/
def withReadyTimeout (settings : Settings) (readyTimeout : Duration) : Settings :=
  { settings with readyTimeout }

/-- The settings with another poll interval. -/
def withPollInterval (settings : Settings) (pollInterval : Duration) : Settings :=
  { settings with pollInterval }

/-- The settings with another host. -/
def withListenHost (settings : Settings) (listenHost : String) : Settings :=
  { settings with listenHost }

end Settings

end RegistryBench
