import CardPayments.Authorization
import CardPayments.Capture

/-! # Reversals

A reversal cancels what is not captured of an approved authorization. -/
set_option autoImplicit false

namespace CardPayments

inductive ReversalStatus where
  | new
  | failed
  | succeeded
deriving DecidableEq, Repr, Inhabited

namespace ReversalStatus

def name : ReversalStatus → String
  | .new => "new"
  | .failed => "failed"
  | .succeeded => "succeeded"

def ofName? (s : String) : Option ReversalStatus :=
  if s = "new" then some .new
  else if s = "failed" then some .failed
  else if s = "succeeded" then some .succeeded
  else none

@[simp] theorem ofName?_name (status : ReversalStatus) : ofName? status.name = some status := by
  cases status <;> decide

/-- A reversal succeeded when the network approved it, and failed otherwise. -/
def ofResponse (response : Option SchemeResponse) : ReversalStatus :=
  match response with
  | some r => if r.code.isApproval then .succeeded else .failed
  | none => .failed

end ReversalStatus

structure Reversal where
  id : Uuid
  authorizationId : Uuid
  /-- The authorization that is reversed, with its clear number once that was looked up. -/
  authorization : Option Authorization
  amount : Option Amount
  status : ReversalStatus
  response : Option SchemeResponse
  createdAt : Instant
deriving DecidableEq

namespace Reversal

def ofId (id authorizationId : Uuid) (createdAt : Instant) : Reversal :=
  ⟨id, authorizationId, none, none, .new, none, createdAt⟩

def ofAuthorization (id : Uuid) (authorization : Authorization) (createdAt : Instant) : Reversal :=
  ⟨id, authorization.id, some authorization, none, .new, none, createdAt⟩

/-- The row that is stored: the authorization in it without clear number. -/
def row (r : Reversal) : Reversal :=
  { r with authorization := r.authorization.map fun a => { a with card := a.card.redacted } }

def scheme? (r : Reversal) : Option Scheme := r.authorization.map fun a => a.card.scheme

end Reversal
end CardPayments
