import FarmRegistry.Time.Delay

namespace FarmRegistry.Sql

structure PoolSettings where
  databaseUrl : String
  maxSize : Nat
  leastIdle : Option Nat
  connectionTimeout : Delay
deriving DecidableEq

namespace PoolSettings

def ofUrl (url : String) : PoolSettings :=
  ⟨url, 10, some 2, .ofParts 30 0⟩

def minIdle (c : PoolSettings) : Option Nat :=
  c.leastIdle.map (min · c.maxSize)

end PoolSettings

inductive PoolError where
  | checkout (message : String)
  | build (message : String)
deriving DecidableEq

namespace PoolError

def cause : PoolError → String
  | .checkout m => m
  | .build m => m

def message : PoolError → String
  | .checkout m => s!"failed to get connection from pool: {m}"
  | .build m => s!"failed to build connection pool: {m}"

end PoolError

inductive MigrationError where
  | connect (message : String)
  | apply (message : String)
deriving DecidableEq

namespace MigrationError

def cause : MigrationError → String
  | .connect m => m
  | .apply m => m

def message : MigrationError → String
  | .connect m => s!"failed to connect for migrations: {m}"
  | .apply m => s!"failed to apply migrations: {m}"

end MigrationError

end FarmRegistry.Sql
