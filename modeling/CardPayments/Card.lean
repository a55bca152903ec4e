import CardPayments.Error
import CardPayments.Text.Blank
import CardPayments.Text.Bytes

/-! # Cards

A primary account number is 12 to 19 digits that pass the Luhn check; `Pan.check` accepts exactly
those.  A `Pan` as such only holds a text, since stored cards may bring any text along.  Where a
card is shown or stored, the number is masked: its first six and last four digits stay. -/
set_option autoImplicit false

namespace CardPayments

structure Pan where
  digits : String
deriving DecidableEq

namespace Pan

/-- What a digit adds to the Luhn sum where it is doubled. -/
def doubled (d : Nat) : Nat := if 9 < 2 * d then 2 * d - 9 else 2 * d

/-- The Luhn sum of digits given last digit first: every second one is doubled. -/
def luhnSum : List Nat → Nat
  | [] => 0
  | [d] => d
  | d :: e :: rest => d + doubled e + luhnSum rest

def passesLuhn (s : List Char) : Bool :=
  luhnSum (s.reverse.map fun c => (Text.digit? c).getD 0) % 10 == 0

/-- The number of a text, with blanks around it. -/
def check (text : String) : Except PaymentError Pan :=
  let ds := Text.trimList text.toList
  if 12 ≤ ds.length ∧ ds.length ≤ 19 ∧ ds.all Text.isDigit = true then
    if passesLuhn ds then .ok ⟨String.ofList ds⟩ else .error (.invalid .panChecksum)
  else .error (.invalid .panLength)

/-- The first six and the last four digits, with stars for those between.  Texts that are not digits
are measured in bytes. -/
def masked (pan : Pan) : String :=
  let ds := pan.digits.toList
  String.ofList (Text.leading 6 ds ++ List.replicate (Text.byteLength ds - 10) '*' ++
    Text.trailing 4 ds)

/-- How a number appears in diagnostics. -/
def shown (pan : Pan) : String := "Pan(" ++ pan.masked ++ ")"

end Pan

/-- The scheme of a name in any case, with blanks around it. -/
def Scheme.ofText (s : String) : Except PaymentError Scheme :=
  let name := Text.lowerAscii (Text.trim s)
  match Scheme.ofName? name with
  | some scheme => .ok scheme
  | none => .error (.invalid (.scheme name))

theorem Scheme.ofText_eq_ok {s : String} {scheme : Scheme} :
    ofText s = .ok scheme ↔ ofName? (Text.lowerAscii (Text.trim s)) = some scheme := by
  rw [ofText]
  cases ofName? (Text.lowerAscii (Text.trim s)) <;> simp

/-- A card on its way through the system.  The clear number is only there right after intake and
after it was looked up by its token. -/
structure Card where
  pan : Option Pan
  maskedPan : String
  token : Option String
  scheme : Scheme
deriving DecidableEq

namespace Card

def ofPan (pan : Pan) (scheme : Scheme) : Card := ⟨some pan, pan.masked, none, scheme⟩

/-- The card without its clear number: what may be stored. -/
def redacted (card : Card) : Card := { card with pan := none }

end Card
end CardPayments
