import CardPayments.Error
import CardPayments.Json.Record

/-! # Settings

Every setting has a default, so a configuration names only what it overrides. -/
set_option autoImplicit false

namespace CardPayments

structure SequenceConfig where
  name : String
  least : UInt64
  greatest : UInt64
  batchSize : UInt64
  prefetch : UInt64
  retryMillis : UInt64
deriving DecidableEq, Repr

namespace SequenceConfig

def default : SequenceConfig := ⟨"stan", 1, 999999, 100, 50, 250⟩

/-- The range is not empty, and a batch is neither empty nor larger than the range. -/
def validate (c : SequenceConfig) : Except PaymentError Unit :=
  if c.greatest < c.least then .error (.invalid (.invertedRange c.name c.least c.greatest))
  else if c.batchSize = 0 ∨ c.greatest - c.least + 1 < c.batchSize then
    .error (.invalid (.batchSize c.name))
  else .ok ()

def fieldNames : List String :=
  ["name", "min_value", "max_value", "batch_size", "prefetch", "retry_interval_ms"]

def ofJson (j : Json) : Option SequenceConfig := do
  let [name, least, greatest, batchSize, prefetch, retryMillis] ← j.partialRecord fieldNames
    | none
  return {
    name := ← Json.orDefault Json.readString default.name name
    least := ← Json.orDefault Json.readWord default.least least
    greatest := ← Json.orDefault Json.readWord default.greatest greatest
    batchSize := ← Json.orDefault Json.readWord default.batchSize batchSize
    prefetch := ← Json.orDefault Json.readWord default.prefetch prefetch
    retryMillis := ← Json.orDefault Json.readWord default.retryMillis retryMillis }

end SequenceConfig

structure Topics where
  capture : String
  refundCapture : String
deriving DecidableEq, Repr

namespace Topics

def default : Topics := ⟨"captures", "refund-captures"⟩

def ofJson (j : Json) : Option Topics := do
  let [capture, refundCapture] ← j.partialRecord ["capture", "refund_capture"] | none
  return {
    capture := ← Json.orDefault Json.readString default.capture capture
    refundCapture := ← Json.orDefault Json.readString default.refundCapture refundCapture }

end Topics

structure Config where
  sequence : SequenceConfig
  /-- The largest amount for which a low-value exemption is accepted. -/
  lowValueCeiling : Decimal
  topics : Topics
  timeoutMillis : UInt64
deriving DecidableEq

namespace Config

def default : Config := ⟨.default, .thirty, .default, 30000⟩

def readCeiling (j : Json) : Option Decimal := do
  let [ceiling] ← j.partialRecord ["low_value_ceiling"] | none
  Json.orDefault Json.readDecimal default.lowValueCeiling ceiling

def ofJson (j : Json) : Option Config := do
  let [sequence, risk, topics, timeout] ←
    j.partialRecord ["sequence", "risk", "topics", "request_timeout_ms"] | none
  return {
    sequence := ← Json.orDefault SequenceConfig.ofJson default.sequence sequence
    lowValueCeiling := ← Json.orDefault readCeiling default.lowValueCeiling risk
    topics := ← Json.orDefault Topics.ofJson default.topics topics
    timeoutMillis := ← Json.orDefault Json.readWord default.timeoutMillis timeout }

def ofText (s : String) : Except PaymentError Config :=
  match (Json.parseText s).bind ofJson with
  | none => .error (.invalid .config)
  | some config =>
      match config.sequence.validate with
      | .ok () => .ok config
      | .error e => .error e

def ofFile (text : Option String) : Except PaymentError Config :=
  match text with
  | some s => ofText s
  | none => .error (.io "No such file or directory (os error 2)")

end Config
end CardPayments
