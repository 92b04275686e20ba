import Courier.Schema.Assignment
import Courier.Schema.Field

/-!
# Outcomes of a send

A send ends in one of four ways: the message was turned down before anything was sent, the exchange
with the provider broke off, the provider refused the message, or it accepted it.
-/

namespace Courier

/-- Why a send failed (`FailureKind`). -/
inductive Failure where
  | validation
  | transport
  | provider
  deriving DecidableEq, Repr

namespace Failure

/-- The word for a failure. -/
def word : Failure → Text
  | .validation => Text.ofString "validation"
  | .transport => Text.ofString "transport"
  | .provider => Text.ofString "provider"

/-- The failures by their words. -/
def choices : List (Text × Failure) :=
  [Failure.validation, .transport, .provider].map fun f => (f.word, f)

end Failure

/-- What came of a send (`SendResult`): whether the provider accepted it, a diagnostic text, the
kind of failure, and the status of the provider's answer if there was one. -/
structure Outcome where
  ok : Bool
  detail : Text
  failure : Option Failure
  status : Option Int
  deriving DecidableEq, Repr

namespace Outcome

/-- Nothing was sent, for the given reason. -/
def rejected (reason : Text) : Outcome := ⟨false, reason, some .validation, none⟩

/-- The exchange did not complete, for the given reason. -/
def broken (reason : Text) : Outcome := ⟨false, reason, some .transport, none⟩

/-- The provider answered with a status that is no success. -/
def refused (status : Int) (detail : Text) : Outcome :=
  ⟨false, detail, some .provider, some status⟩

/-- The provider took the message. -/
def accepted (status : Int) (detail : Text) : Outcome := ⟨true, detail, none, some status⟩

/-- Check a value as an outcome. Its fields need not agree with each other. -/
def ofValue : Value → Schema.Checked Outcome :=
  Schema.object (.recordExpected .outcome) fun ms =>
    Outcome.mk <$> Schema.required ["ok"] Schema.truth ms
      <*> Schema.optional ["detail"] Schema.text [] ms
      <*> Schema.optional ["error"] (Schema.nullable (Schema.choice Failure.choices)) none ms
      <*> Schema.optional ["status_code"] (Schema.nullable Schema.integer) none ms

/-- The outcome as a record. -/
def fields (o : Outcome) : Members :=
  [(Text.ofString "ok", .bool o.ok), (Text.ofString "detail", .text o.detail),
    (Text.ofString "error", Value.ofOption (fun f => .text f.word) o.failure),
    (Text.ofString "status_code", Value.ofOption .int o.status)]

/-- The fields of an outcome may change. -/
def access : Schema.Access := ⟨.outcome, false, []⟩

end Outcome

end Courier
