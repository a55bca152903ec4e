import CardPayments.Replay

/-! # Card numbers that look the same

Two numbers are alike when they have the same length and the same digits where a masked number shows
them.  Cards are alike when they only differ in a clear number, and commands when they only differ
in accepted numbers that are alike. -/
set_option autoImplicit false

namespace CardPayments

structure Pan.Alike (a b : Pan) : Prop where
  length : a.digits.toList.length = b.digits.toList.length
  leading : a.digits.toList.take 6 = b.digits.toList.take 6
  trailing : a.digits.toList.drop (a.digits.toList.length - 4) =
    b.digits.toList.drop (b.digits.toList.length - 4)

theorem Text.utf8Size_of_isDigit {c : Char} (digit : isDigit c = true) : c.utf8Size = 1 := by
  rw [isDigit, digit?] at digit
  split at digit
  · next between =>
      have upper : c.val ≤ '9'.val := between.2
      rw [Char.utf8Size, if_pos (UInt32.le_trans upper (by decide))]
  · cases digit

theorem Pan.check_digits {text : String} {pan : Pan} (accepted : Pan.check text = .ok pan) :
    ∀ c ∈ pan.digits.toList, Text.isDigit c = true := by
  rw [check] at accepted
  split at accepted
  · next wellFormed =>
      split at accepted
      · cases accepted
        rw [String.toList_ofList]
        exact List.all_eq_true.mp wellFormed.2.2
      · cases accepted
  · cases accepted

theorem Pan.masked_eq {pan : Pan} (digits : ∀ c ∈ pan.digits.toList, Text.isDigit c = true) :
    pan.masked = String.ofList (pan.digits.toList.take 6 ++
      List.replicate (pan.digits.toList.length - 10) '*' ++
      pan.digits.toList.drop (pan.digits.toList.length - 4)) := by
  have single : ∀ c ∈ pan.digits.toList, c.utf8Size = 1 :=
    fun c member => Text.utf8Size_of_isDigit (digits c member)
  rw [masked, Text.leading_of_single 6 _ single, Text.byteLength_of_single _ single,
    Text.trailing_of_single 4 _ single]

structure Card.Alike (c d : Card) : Prop where
  redacted : c.redacted = d.redacted
  clear : c.pan.isSome = d.pan.isSome

theorem Card.Alike.refl (c : Card) : c.Alike c := ⟨rfl, rfl⟩

/-- Cards of accepted numbers that are alike show the same. -/
theorem Pan.Alike.cards {text text' : String} {pan pan' : Pan} (alike : pan.Alike pan')
    (accepted : Pan.check text = .ok pan) (accepted' : Pan.check text' = .ok pan')
    (scheme : Scheme) : (Card.ofPan pan scheme).Alike (Card.ofPan pan' scheme) := by
  have masked : pan.masked = pan'.masked := by
    rw [masked_eq (check_digits accepted), masked_eq (check_digits accepted'), alike.leading,
      alike.trailing, alike.length]
  exact ⟨by simp only [Card.redacted, Card.ofPan, masked], rfl⟩

/-- The commands are equal, or they hold accepted numbers that are alike and are equal
otherwise. -/
def Command.Alike (c d : Command) : Prop :=
  c = d ∨ ∃ text text' pan pan', c.pan = some text ∧ d = { c with pan := some text' } ∧
    Pan.check text = .ok pan ∧ Pan.check text' = .ok pan' ∧ pan.Alike pan'

/-- The commands are equal but for their numbers, which are refused for the same reason or pay with
cards that are related. -/
structure Command.Pays (cards : Card → Card → Prop) (c d : Command) : Prop where
  same : ∃ pan, d = { c with pan := pan }
  pays : (∃ e, Replay.cardPayment c = .error e ∧ Replay.cardPayment d = .error e) ∨
    ∃ card card' amount currency, cards card card' ∧
      Replay.cardPayment c = .ok (card, amount, currency) ∧
      Replay.cardPayment d = .ok (card', amount, currency)

theorem Command.Pays.refl {cards : Card → Card → Prop} (same : ∀ card, cards card card)
    (c : Command) : Command.Pays cards c c := by
  refine ⟨⟨c.pan, rfl⟩, ?_⟩
  cases paid : Replay.cardPayment c with
  | error e => exact Or.inl ⟨e, rfl, rfl⟩
  | ok payment =>
      obtain ⟨card, amount, currency⟩ := payment
      exact Or.inr ⟨card, card, amount, currency, same card, rfl, rfl⟩

/-- What a command with an accepted number says about the payment otherwise. -/
def Replay.terms (c : Command) : Except PaymentError (Scheme × Amount × Currency) := do
  let scheme ← Scheme.ofText (← required c.scheme "scheme")
  let amount ← amountOf c
  let currency ← Currency.ofText (← required c.currency "currency")
  return (scheme, amount, currency)

theorem Replay.cardPayment_terms {c : Command} {text : String} {pan : Pan}
    (holds : c.pan = some text) (accepted : Pan.check text = .ok pan) :
    cardPayment c = (terms c).map fun terms => (.ofPan pan terms.1, terms.2) := by
  rw [cardPayment, terms, holds]
  cases required c.scheme "scheme" with
  | error e => rfl
  | ok name =>
      simp only [required, bind, Except.bind, accepted]
      cases Scheme.ofText name with
      | error e => rfl
      | ok scheme =>
          simp only
          cases amountOf c with
          | error e => rfl
          | ok amount =>
              simp only
              split
              · rfl
              · next code _ => cases Currency.ofText code <;> rfl

theorem Command.Alike.pays {c d : Command} (alike : c.Alike d) : Command.Pays Card.Alike c d := by
  rcases alike with rfl | ⟨text, text', pan, pan', holds, rfl, accepted, accepted', alike⟩
  · exact .refl Card.Alike.refl c
  · refine ⟨⟨_, rfl⟩, ?_⟩
    rw [Replay.cardPayment_terms holds accepted, Replay.cardPayment_terms rfl accepted',
      show Replay.terms { c with pan := some text' } = Replay.terms c from rfl]
    cases Replay.terms c with
    | error e => exact Or.inl ⟨e, rfl, rfl⟩
    | ok terms =>
        obtain ⟨scheme, amount, currency⟩ := terms
        exact Or.inr ⟨_, _, amount, currency, alike.cards accepted accepted' scheme, rfl, rfl⟩

end CardPayments
