import FarmRegistry.Settings.Basic

namespace FarmRegistry

namespace Delay

def toJson (d : Delay) : Json :=
  if d.milliseconds < twoTo 64 then .integer d.milliseconds else .string (toString d.milliseconds)

end Delay

namespace RetryPolicy

def toJson (p : RetryPolicy) : Json :=
  .object [("maxAttempts", .integer p.maxAttempts), ("initialBackoff", p.initialBackoff.toJson),
    ("maxBackoff", p.maxBackoff.toJson)]

end RetryPolicy

namespace OverlapPolicy

def name : OverlapPolicy → String
  | allow => "Allow"
  | reject => "Reject"

end OverlapPolicy

namespace Sql.PoolSettings

def toJson (c : PoolSettings) : Json :=
  .object [("databaseUrl", .string c.databaseUrl), ("maxSize", .integer c.maxSize),
    ("minIdle", (c.minIdle.map fun n => Json.integer n).getD .null),
    ("connectionTimeout", c.connectionTimeout.toJson)]

end Sql.PoolSettings

namespace Settings

def toJson (s : Settings) : Json :=
  .object [("retry", s.retryPolicy.toJson), ("overlapPolicy", .string s.overlapPolicy.name),
    ("pool", (s.pool?.map Sql.PoolSettings.toJson).getD .null), ("isDefault", .bool (s.service = .standard))]

end Settings

end FarmRegistry
