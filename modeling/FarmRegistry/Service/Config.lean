import FarmRegistry.Service.Retry

namespace FarmRegistry

inductive OverlapPolicy where
  | allow
  | reject
deriving DecidableEq

structure ServiceConfig where
  retry : RetryPolicy
  overlaps : OverlapPolicy
deriving DecidableEq

def ServiceConfig.standard : ServiceConfig :=
  ⟨.standard, .allow⟩

end FarmRegistry
