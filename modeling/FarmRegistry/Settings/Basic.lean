import FarmRegistry.Json.Decode
import FarmRegistry.Service.Config
import FarmRegistry.Sql.Pool
import FarmRegistry.Text.Blank

namespace FarmRegistry

structure Settings where
  databaseUrl : Option String
  poolMaxSize : Option Nat
  retryMaxAttempts : Option Nat
  retryInitialBackoffMs : Option Nat
  retryMaxBackoffMs : Option Nat
  rejectOverlaps : Bool
deriving DecidableEq

namespace Settings

open Json

def retryPolicy (s : Settings) : RetryPolicy :=
  let standard := RetryPolicy.standard
  ⟨s.retryMaxAttempts.getD standard.maxAttempts,
    (s.retryInitialBackoffMs.map Delay.ofMilliseconds).getD standard.initialBackoff,
    (s.retryMaxBackoffMs.map Delay.ofMilliseconds).getD standard.maxBackoff⟩

def overlapPolicy (s : Settings) : OverlapPolicy :=
  if s.rejectOverlaps then .reject else .allow

def service (s : Settings) : ServiceConfig :=
  ⟨s.retryPolicy, s.overlapPolicy⟩

def pool? (s : Settings) : Option Sql.PoolSettings :=
  match s.databaseUrl with
  | none => none
  | some url =>
    match Text.trim url.toList with
    | [] => none
    | cs =>
      let config := Sql.PoolSettings.ofUrl (String.ofList cs)
      some { config with maxSize := s.poolMaxSize.getD config.maxSize }

def fields : List String :=
  ["database_url", "pool_max_size", "retry_max_attempts", "retry_initial_backoff_ms", "retry_max_backoff_ms",
    "reject_overlaps"]

def shape : Shape := ⟨"settings", fields⟩

def count32 : Decoder Nat := fun j => (Decode.bounded 0 4294967295 j).map (·.val.toNat)

def count64 : Decoder Nat := fun j => (Decode.bounded 0 18446744073709551615 j).map (·.val.toNat)

def ofJson : Decoder Settings :=
  shape.decode fun p => do
    return ⟨← shape.nullable p 0 Decode.text, ← shape.nullable p 1 count32, ← shape.nullable p 2 count32,
      ← shape.nullable p 3 count64, ← shape.nullable p 4 count64, ← shape.required p 5 Decode.bool⟩

end Settings

end FarmRegistry
