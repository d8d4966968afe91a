import FarmRegistry.Registry.Error
import FarmRegistry.Totals.Farmer
import FarmRegistry.Sql.Pool

namespace FarmRegistry

def RingDefect.kind : RingDefect → String
  | .tooFewPoints _ => "TooFewPoints"
  | .unclosedRing => "UnclosedRing"
  | .coordinateOutOfRange _ _ => "CoordinateOutOfRange"
  | .selfIntersecting _ _ => "SelfIntersecting"

def TotalsError.kind : TotalsError → String
  | .negative _ => "Negative"
  | .overflow _ => "Overflow"
  | .mismatchedFarmer _ _ => "MismatchedFarmer"

def StoreError.kind : StoreError → String
  | .connection _ => "Connection"
  | .query _ => "Query"
  | .conflict _ => "Conflict"
  | .farmNotFound _ => "FarmNotFound"
  | .farmerNotFound _ => "FarmerNotFound"
  | .negativeAggregate _ => "NegativeAggregate"

def ServiceError.kind : ServiceError → String
  | .geometry _ => "Geometry"
  | .overlapConflict _ => "OverlapConflict"
  | .farmNotFound _ => "FarmNotFound"
  | .farmerNotFound _ => "FarmerNotFound"
  | .concurrencyConflict _ => "ConcurrencyConflict"
  | .aggregateConsistency _ => "AggregateConsistency"
  | .repository _ => "Repository"

def Sql.PoolError.kind : Sql.PoolError → String
  | .checkout _ => "Checkout"
  | .build _ => "Build"

def Sql.MigrationError.kind : Sql.MigrationError → String
  | .connect _ => "Connect"
  | .apply _ => "Apply"

end FarmRegistry
