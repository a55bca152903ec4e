import CardPayments.Card

/-! # The directory of networks

One connection per scheme; a later one takes the place of an earlier one. -/
set_option autoImplicit false

namespace CardPayments

/-- Connections of schemes, latest first. -/
structure Directory (α : Type) where
  entries : List (Scheme × α)
deriving Repr

namespace Directory

variable {α : Type}

def empty : Directory α := ⟨[]⟩

def register (d : Directory α) (scheme : Scheme) (connection : α) : Directory α :=
  ⟨(scheme, connection) :: d.entries⟩

def get (d : Directory α) (scheme : Scheme) : Except PaymentError α :=
  match d.entries.lookup scheme with
  | some connection => .ok connection
  | none => .error (.noConnection scheme.name)

/-- The connection of a scheme that is named in any case; a name that is no scheme is reported as it
stands. -/
def getByName (d : Directory α) (name : String) : Except PaymentError α :=
  match Scheme.ofText name with
  | .ok scheme => d.get scheme
  | .error _ => .error (.noConnection name)

def registerAll (d : Directory α) : List (String × α) → Except PaymentError (Directory α)
  | [] => .ok d
  | (name, connection) :: rest =>
      match Scheme.ofText name with
      | .ok scheme => (d.register scheme connection).registerAll rest
      | .error e => .error e

end Directory
end CardPayments
