import FarmRegistry.Json.Value
import FarmRegistry.Registry.Error
import FarmRegistry.Text.Blank

namespace FarmRegistry

inductive ErrorCode where
  | invalidRequest
  | notFound
  | conflict
  | serviceUnavailable
  | internalError
deriving DecidableEq

namespace ErrorCode

def name : ErrorCode → String
  | .invalidRequest => "invalid_request"
  | .notFound => "not_found"
  | .conflict => "conflict"
  | .serviceUnavailable => "service_unavailable"
  | .internalError => "internal_error"

def all : List ErrorCode :=
  [.invalidRequest, .notFound, .conflict, .serviceUnavailable, .internalError]

def ofName? (s : String) : Option ErrorCode :=
  all.find? (·.name = s)

theorem ofName?_name (c : ErrorCode) : ofName? c.name = some c := by
  cases c <;> decide

end ErrorCode

structure Envelope where
  code : ErrorCode
  message : String
  details : Option Json
  notBlank : Text.allBlank message = false

namespace Envelope

def blankMessage : String :=
  "error message must not be empty"

def ofMessage? (code : ErrorCode) (message : String) : Option Envelope :=
  if h : Text.allBlank message then none else some ⟨code, message, none, by simpa using h⟩

def withDetails (e : Envelope) (details : Json) : Envelope :=
  { e with details := some details }

end Envelope

namespace ServiceError

def code : ServiceError → ErrorCode
  | .geometry _ => .invalidRequest
  | .overlapConflict _ => .conflict
  | .farmNotFound _ => .notFound
  | .farmerNotFound _ => .notFound
  | .concurrencyConflict _ => .serviceUnavailable
  | .repository _ => .serviceUnavailable
  | .aggregateConsistency _ => .internalError

def details : ServiceError → Option Json
  | .overlapConflict farmIds => some (.object [("farmIds", .array (farmIds.map (.string ∘ toString)))])
  | .farmNotFound farmId => some (.object [("farmId", .string (toString farmId))])
  | .farmerNotFound farmerId => some (.object [("farmerId", .string (toString farmerId))])
  | .aggregateConsistency farmerId => some (.object [("farmerId", .string (toString farmerId))])
  | .concurrencyConflict attempts => some (.object [("attempts", .integer attempts)])
  | .geometry _ => none
  | .repository _ => none

def publicMessage : ServiceError → String
  | .repository _ => "farm storage is unavailable"
  | e => e.message

theorem notBlank_append {s : String} (t : String) (h : Text.allBlank s = false) :
    Text.allBlank (s ++ t) = false := by
  simp only [Text.allBlank] at h ⊢
  rw [String.toList_append, List.all_append, h, Bool.false_and]

theorem publicMessage_notBlank (e : ServiceError) : Text.allBlank e.publicMessage = false := by
  cases e with
  | repository m =>
    change Text.allBlank "farm storage is unavailable" = false
    decide
  | _ =>
    repeat apply notBlank_append
    decide

def envelope (e : ServiceError) : Envelope :=
  ⟨e.code, e.publicMessage, e.details, e.publicMessage_notBlank⟩

end ServiceError

end FarmRegistry
