import CardPayments.Card

/-! # The vault of card numbers

A clear number is handed in once and replaced by a token.  Every token is new, and opens the vault
only for the merchant it was made for. -/
set_option autoImplicit false

namespace CardPayments

structure Vault where
  entries : List ((String × String) × Pan)
  issued : Nat
deriving DecidableEq

namespace Vault

def empty : Vault := ⟨[], 0⟩

def token (n : Nat) : String :=
  "7c9e6679-7425-40de-944b-" ++ String.ofList (Text.paddedDigits 12 n)

/-- Puts the number of a card into the vault; the answer is its token. -/
def tokenize (v : Vault) (merchant : String) (card : Card) : Except PaymentError (String × Vault) :=
  match card.pan with
  | none => .error (.tokenization "card has no PAN")
  | some pan =>
      let made := token v.issued
      .ok (made, ⟨((merchant, made), pan) :: v.entries, v.issued + 1⟩)

def detokenize (v : Vault) (merchant : String) (card : Card) : Except PaymentError Card :=
  match card.token with
  | none => .error (.tokenization "card has no token")
  | some found =>
      match v.entries.lookup (merchant, found) with
      | some pan => .ok { card with pan := some pan }
      | none => .error (.tokenization "unknown token")

end Vault
end CardPayments
