import CardPayments.Proofs.Decimal.Sum
import CardPayments.Proofs.Secrecy.Card
import CardPayments.Proofs.Wire.Record

/-! # Where the values of a record come from

An amount and a currency in a record that is read from a text are what their constructors make of
what is written there, however deep they stand.  The clear number of a card is the text that stands
in its field and nothing else: no reader checks it.  A record that was read is therefore as sound as
one that was constructed just when the number written in it is an acceptable one. -/
set_option autoImplicit false

namespace CardPayments

/-! ## Sound values -/

/-- 12 to 19 digits that pass the Luhn check. -/
structure Pan.Sound (pan : Pan) : Prop where
  long : 12 ≤ pan.digits.toList.length
  short : pan.digits.toList.length ≤ 19
  digits : ∀ c ∈ pan.digits.toList, Text.isDigit c = true
  luhn : Pan.passesLuhn pan.digits.toList = true

def Amount.Sound (a : Amount) : Prop := 0 < a.value.number

/-- Three capital letters. -/
def Currency.Sound (currency : Currency) : Prop :=
  currency.code.toList.length = 3 ∧ ∀ c ∈ currency.code.toList, c.isUpper = true

def Card.Sound (card : Card) : Prop := ∀ pan, card.pan = some pan → pan.Sound

/-- What a record that pays with a card holds of its constructors' values. -/
structure Payment.Sound (amount : Amount) (currency : Currency) (card : Card) : Prop where
  amount : amount.Sound
  currency : currency.Sound
  card : card.Sound

def Authorization.Sound (a : Authorization) : Prop := Payment.Sound a.amount a.currency a.card

def Refund.Sound (r : Refund) : Prop := Payment.Sound r.amount r.currency r.card

structure Reversal.Sound (r : Reversal) : Prop where
  amount : ∀ a, r.amount = some a → a.Sound
  authorization : ∀ a, r.authorization = some a → a.Sound

theorem Amount.sound (a : Amount) : a.Sound := (Decimal.number_pos_iff a.value).mpr a.positive

theorem Currency.sound (currency : Currency) : currency.Sound := by
  have wellFormed := currency.wellFormed
  simp only [isCurrencyCode, Bool.and_eq_true, beq_iff_eq, List.all_eq_true] at wellFormed
  exact wellFormed

theorem Pan.sound_of_check {text : String} {pan : Pan} (accepted : check text = .ok pan) :
    pan.Sound := by
  have digits := check_digits accepted
  rw [check] at accepted
  split at accepted
  · next wellFormed =>
      split at accepted
      · next luhn =>
          cases accepted
          rw [String.toList_ofList] at digits
          constructor <;> simp only [String.toList_ofList]
          · exact wellFormed.1
          · exact wellFormed.2.1
          · exact digits
          · exact luhn
      · cases accepted
  · cases accepted

theorem Pan.Sound.check {pan : Pan} (sound : pan.Sound) : Pan.check pan.digits = .ok pan := by
  have trimmed : Text.trimList pan.digits.toList = pan.digits.toList :=
    Text.trimList_of_visible fun c member => Text.not_isBlank_of_isDigit (sound.digits c member)
  have wellFormed : 12 ≤ pan.digits.toList.length ∧ pan.digits.toList.length ≤ 19 ∧
      pan.digits.toList.all Text.isDigit = true :=
    ⟨sound.long, sound.short, List.all_eq_true.mpr sound.digits⟩
  simp only [Pan.check, trimmed, if_pos wellFormed, if_pos sound.luhn, String.ofList_toList]

/-! ## Fields -/

def Json.field (names : List String) (name : String) (j : Json) : Option Json :=
  (j.record names).bind fun values => ((names.zip values).lookup name).join

theorem Json.field_eq {names : List String} {j : Json} {values : List (Option Json)}
    (fields : j.record names = some values) (name : String) :
    j.field names name = ((names.zip values).lookup name).join := by
  rw [field, fields, Option.bind_some]

/-- The amount is what its constructor makes of the number written there. -/
def Amount.IsWritten (a : Amount) (written : Option Json) : Prop :=
  ∃ d, written.bind Json.readDecimal = some d ∧ ofDecimal d = .ok a

/-- The currency is what its constructor makes of the text written there. -/
def Currency.IsWritten (currency : Currency) (written : Option Json) : Prop :=
  ∃ s, written.bind Json.readString = some s ∧ ofText s = .ok currency

section

variable {α : Type} {read : Json → Option α} {written : Option Json}

theorem Json.required_eq_some {v : α} (given : required read written = some v) :
    written.bind read = some v := by
  cases written with
  | none => cases given
  | some j => exact given

theorem Json.optional_eq_some {o : Option α} (nothing : read .null = none)
    (given : optional read written = some o) : written.bind read = o := by
  rw [optional.eq_def] at given
  split at given
  · cases given
    rfl
  · cases given
    exact nothing
  · obtain ⟨v, value, rfl⟩ := Option.map_eq_some_iff.mp given
    exact value

end

theorem Amount.isWritten {a : Amount} {written : Option Json}
    (given : written.bind Amount.ofJson = some a) : a.IsWritten written := by
  rw [show Amount.ofJson = fun j => j.readDecimal.bind ofDecimal? from rfl,
    ← Option.bind_assoc] at given
  obtain ⟨d, decimal, amount⟩ := Option.bind_eq_some_iff.mp given
  exact ⟨d, decimal, by rw [ofDecimal, amount]⟩

theorem Currency.isWritten {currency : Currency} {written : Option Json}
    (given : written.bind Currency.ofJson = some currency) : currency.IsWritten written := by
  rw [show Currency.ofJson = fun j => j.readString.bind ofText? from rfl,
    ← Option.bind_assoc] at given
  obtain ⟨s, text, code⟩ := Option.bind_eq_some_iff.mp given
  exact ⟨s, text, by delta ofText; rw [code]⟩

namespace Card

def writtenNumber (j : Json) : Option String := (j.field fieldNames "pan").bind Json.readString

theorem pan_eq_of_ofJson {j : Json} {card : Card} (accepted : ofJson j = some card) :
    card.pan.map Pan.digits = writtenNumber j := by
  obtain ⟨values, fields, accepted⟩ := Option.bind_eq_some_iff.mp accepted
  split at accepted
  · next pan masked token scheme =>
      simp only [Option.bind_eq_bind, Option.bind_eq_some_iff, Option.pure_def,
        Option.some.injEq] at accepted
      obtain ⟨number, read, _, _, _, _, _, _, rfl⟩ := accepted
      have field : j.field fieldNames "pan" = pan := Json.field_eq fields "pan"
      rw [writtenNumber, field, ← Json.optional_eq_some rfl read]
      cases pan with
      | none => rfl
      | some j => cases j <;> rfl
  · cases accepted

theorem pan_eq_of_bind {written : Option Json} {card : Card}
    (accepted : written.bind ofJson = some card) :
    card.pan.map Pan.digits = written.bind writtenNumber := by
  obtain ⟨j, rfl, read⟩ := Option.bind_eq_some_iff.mp accepted
  exact pan_eq_of_ofJson read

end Card

/-- A number that is missing or that the check takes as it stands. -/
def Pan.Acceptable (number : Option String) : Prop :=
  ∀ s, number = some s → check s = .ok ⟨s⟩

theorem Card.sound_iff {card : Card} {number : Option String}
    (written : card.pan.map Pan.digits = number) : card.Sound ↔ Pan.Acceptable number := by
  subst written
  constructor
  · intro sound s given
    obtain ⟨pan, clear, rfl⟩ := Option.map_eq_some_iff.mp given
    exact (sound pan clear).check
  · intro acceptable pan clear
    exact Pan.sound_of_check (acceptable pan.digits (by rw [clear, Option.map_some]))

/-! ## Authorizations and refunds -/

namespace Payment

def writtenNumber (names : List String) (j : Json) : Option String :=
  (j.field names "card").bind Card.writtenNumber

structure IsWritten (names : List String) (amount : Amount) (currency : Currency) (card : Card)
    (j : Json) : Prop where
  amount : amount.IsWritten (j.field names "amount")
  currency : currency.IsWritten (j.field names "currency")
  number : card.pan.map Pan.digits = writtenNumber names j

variable {names : List String} {amount : Amount} {currency : Currency} {card : Card} {j : Json}

theorem isWritten
    (amountRead : Json.required Amount.ofJson (j.field names "amount") = some amount)
    (currencyRead : Json.required Currency.ofJson (j.field names "currency") = some currency)
    (cardRead : Json.required Card.ofJson (j.field names "card") = some card) :
    IsWritten names amount currency card j where
  amount := Amount.isWritten (Json.required_eq_some amountRead)
  currency := Currency.isWritten (Json.required_eq_some currencyRead)
  number := Card.pan_eq_of_bind (Json.required_eq_some cardRead)

theorem IsWritten.sound_iff (written : IsWritten names amount currency card j) :
    Sound amount currency card ↔ Pan.Acceptable (writtenNumber names j) := by
  rw [← Card.sound_iff written.number]
  exact ⟨Sound.card, fun sound => ⟨amount.sound, currency.sound, sound⟩⟩

end Payment

theorem Authorization.isWritten {outer : ℕ} {j : Json} {a : Authorization}
    (accepted : ofJson outer j = some a) :
    Payment.IsWritten fieldNames a.amount a.currency a.card j := by
  obtain ⟨values, fields, accepted⟩ := Option.bind_eq_some_iff.mp accepted
  split at accepted
  · next amountField currencyField cardField _ _ _ _ _ _ _ =>
      iterate 3 obtain ⟨_, _, accepted⟩ := Option.bind_eq_some_iff.mp accepted
      obtain ⟨amount, amountRead, accepted⟩ := Option.bind_eq_some_iff.mp accepted
      obtain ⟨currency, currencyRead, accepted⟩ := Option.bind_eq_some_iff.mp accepted
      obtain ⟨card, cardRead, accepted⟩ := Option.bind_eq_some_iff.mp accepted
      iterate 7 obtain ⟨_, _, accepted⟩ := Option.bind_eq_some_iff.mp accepted
      cases accepted
      have amountAt : j.field fieldNames "amount" = amountField := Json.field_eq fields _
      have currencyAt : j.field fieldNames "currency" = currencyField := Json.field_eq fields _
      have cardAt : j.field fieldNames "card" = cardField := Json.field_eq fields _
      exact Payment.isWritten (amountAt ▸ amountRead) (currencyAt ▸ currencyRead)
        (cardAt ▸ cardRead)
  · cases accepted

theorem Refund.isWritten {j : Json} {r : Refund} (accepted : ofJson j = some r) :
    Payment.IsWritten fieldNames r.amount r.currency r.card j := by
  obtain ⟨values, fields, accepted⟩ := Option.bind_eq_some_iff.mp accepted
  split at accepted
  · next amountField currencyField cardField _ _ _ _ =>
      iterate 3 obtain ⟨_, _, accepted⟩ := Option.bind_eq_some_iff.mp accepted
      obtain ⟨amount, amountRead, accepted⟩ := Option.bind_eq_some_iff.mp accepted
      obtain ⟨currency, currencyRead, accepted⟩ := Option.bind_eq_some_iff.mp accepted
      obtain ⟨card, cardRead, accepted⟩ := Option.bind_eq_some_iff.mp accepted
      iterate 4 obtain ⟨_, _, accepted⟩ := Option.bind_eq_some_iff.mp accepted
      cases accepted
      have amountAt : j.field fieldNames "amount" = amountField := Json.field_eq fields _
      have currencyAt : j.field fieldNames "currency" = currencyField := Json.field_eq fields _
      have cardAt : j.field fieldNames "card" = cardField := Json.field_eq fields _
      exact Payment.isWritten (amountAt ▸ amountRead) (currencyAt ▸ currencyRead)
        (cardAt ▸ cardRead)
  · cases accepted

/-! ## Reversals -/

namespace Reversal

def writtenNumber (j : Json) : Option String :=
  (j.field fieldNames "authorization").bind (Payment.writtenNumber Authorization.fieldNames)

structure IsWritten (r : Reversal) (j : Json) : Prop where
  amount : ∀ a, r.amount = some a → a.IsWritten (j.field fieldNames "amount")
  authorization : ∀ a, r.authorization = some a →
    ∃ inner, j.field fieldNames "authorization" = some inner ∧
      Payment.IsWritten Authorization.fieldNames a.amount a.currency a.card inner
  number : (r.authorization.bind fun a => a.card.pan).map Pan.digits = writtenNumber j

theorem isWritten {j : Json} {r : Reversal} (accepted : ofJson j = some r) : r.IsWritten j := by
  obtain ⟨values, fields, accepted⟩ := Option.bind_eq_some_iff.mp accepted
  split at accepted
  · next authorizationField amountField _ _ _ =>
      iterate 2 obtain ⟨_, _, accepted⟩ := Option.bind_eq_some_iff.mp accepted
      obtain ⟨authorization, authorizationRead, accepted⟩ := Option.bind_eq_some_iff.mp accepted
      obtain ⟨amount, amountRead, accepted⟩ := Option.bind_eq_some_iff.mp accepted
      iterate 3 obtain ⟨_, _, accepted⟩ := Option.bind_eq_some_iff.mp accepted
      cases accepted
      have authorizationAt : j.field fieldNames "authorization" = authorizationField :=
        Json.field_eq fields _
      have amountAt : j.field fieldNames "amount" = amountField := Json.field_eq fields _
      have inner : authorizationField.bind (Authorization.ofJson 1) = authorization :=
        Json.optional_eq_some rfl authorizationRead
      constructor
      case amount =>
        rintro a rfl
        exact amountAt ▸ Amount.isWritten (Json.optional_eq_some rfl amountRead)
      case authorization =>
        rintro a rfl
        obtain ⟨inner, given, read⟩ := Option.bind_eq_some_iff.mp inner
        exact ⟨inner, authorizationAt.trans given, Authorization.isWritten read⟩
      case number =>
        rw [writtenNumber, authorizationAt]
        cases authorization with
        | some a =>
            obtain ⟨inner, rfl, read⟩ := Option.bind_eq_some_iff.mp inner
            exact (Authorization.isWritten read).number
        | none =>
            rw [Json.optional.eq_def] at authorizationRead
            split at authorizationRead
            · rfl
            · rfl
            · cases (Option.map_eq_some_iff.mp authorizationRead).choose_spec.2
  · cases accepted

theorem IsWritten.sound_iff {r : Reversal} {j : Json} (written : r.IsWritten j) :
    r.Sound ↔ Pan.Acceptable (writtenNumber j) := by
  rw [← written.number]
  constructor
  · intro sound s given
    obtain ⟨pan, clear, rfl⟩ := Option.map_eq_some_iff.mp given
    obtain ⟨a, stored, clear⟩ := Option.bind_eq_some_iff.mp clear
    exact ((sound.authorization a stored).card pan clear).check
  · intro acceptable
    refine ⟨fun a _ => a.sound, fun a stored => ⟨a.amount.sound, a.currency.sound, ?_⟩⟩
    rw [stored, Option.bind_some] at acceptable
    exact (Card.sound_iff rfl).mpr acceptable

end Reversal

/-! ## Captures -/

theorem Capture.isWritten {j : Json} {c : Capture} (accepted : ofJson j = some c) :
    c.amount.IsWritten (j.field fieldNames "amount") := by
  obtain ⟨values, fields, accepted⟩ := Option.bind_eq_some_iff.mp accepted
  split at accepted
  · next id authorizationId amountField _ _ _ =>
      iterate 2 obtain ⟨_, _, accepted⟩ := Option.bind_eq_some_iff.mp accepted
      obtain ⟨amount, amountRead, accepted⟩ := Option.bind_eq_some_iff.mp accepted
      iterate 3 obtain ⟨_, _, accepted⟩ := Option.bind_eq_some_iff.mp accepted
      cases accepted
      have amountAt : j.field fieldNames "amount" = amountField := Json.field_eq fields _
      exact amountAt ▸ Amount.isWritten (Json.required_eq_some amountRead)
  · cases accepted

theorem RefundCapture.isWritten {j : Json} {c : RefundCapture} (accepted : ofJson j = some c) :
    c.amount.IsWritten (j.field fieldNames "amount") := by
  obtain ⟨values, fields, accepted⟩ := Option.bind_eq_some_iff.mp accepted
  split at accepted
  · next id refundId amountField _ _ _ =>
      iterate 2 obtain ⟨_, _, accepted⟩ := Option.bind_eq_some_iff.mp accepted
      obtain ⟨amount, amountRead, accepted⟩ := Option.bind_eq_some_iff.mp accepted
      iterate 3 obtain ⟨_, _, accepted⟩ := Option.bind_eq_some_iff.mp accepted
      cases accepted
      have amountAt : j.field fieldNames "amount" = amountField := Json.field_eq fields _
      exact amountAt ▸ Amount.isWritten (Json.required_eq_some amountRead)
  · cases accepted

/-! ## Cards that any number fits -/

namespace Card

/-- The card with its clear number in front, as a reader takes it. -/
def clearJson (card : Card) : Json :=
  .object [("pan", Json.ofOption .string (card.pan.map Pan.digits)),
    ("masked_pan", .string card.maskedPan), ("token_id", Json.ofOption .string card.token),
    ("scheme", card.scheme.toJson)]

theorem gives_clear (card : Card) : card.clearJson.Gives Card.ofJson card where
  plain := ⟨Json.plain_string _, trivial, Json.plain_string card.token, trivial, trivial⟩
  read := by
    have fields : card.clearJson.record fieldNames =
        some [some (.ofOption .string (card.pan.map Pan.digits)), some (.string card.maskedPan),
          some (.ofOption .string card.token), some card.scheme.toJson] := rfl
    have number : Json.optional Pan.ofJson
        (some (.ofOption .string (card.pan.map Pan.digits))) = some card.pan := by
      cases card.pan <;> rfl
    change (card.clearJson.record fieldNames >>= _) = _
    rw [Json.bind_some fields]
    dsimp only
    rw [Json.bind_some number, (Json.gives_string _).bind, Json.bind_some (Json.optional_string _),
      card.scheme.gives.bind]
    rfl
  filled := nofun

end Card

/-! ## All records -/

/-- Whatever text a record is read from, its amounts and its currency are constructed from what the
text says, its clear number is what the text says, and the record is sound just when the check takes
that number as it stands.  No number keeps a card from being read. -/
theorem records_sound_iff (text : String) :
    (∀ card, (Json.parseText text).bind Card.ofJson = some card →
      ∃ j, Json.parseText text = some j ∧ card.pan.map Pan.digits = Card.writtenNumber j ∧
        (card.Sound ↔ Pan.Acceptable (Card.writtenNumber j))) ∧
    (∀ a, (Json.parseText text).bind (Authorization.ofJson 0) = some a →
      ∃ j, Json.parseText text = some j ∧
        Payment.IsWritten Authorization.fieldNames a.amount a.currency a.card j ∧
        (a.Sound ↔ Pan.Acceptable (Payment.writtenNumber Authorization.fieldNames j))) ∧
    (∀ r, (Json.parseText text).bind Refund.ofJson = some r →
      ∃ j, Json.parseText text = some j ∧
        Payment.IsWritten Refund.fieldNames r.amount r.currency r.card j ∧
        (r.Sound ↔ Pan.Acceptable (Payment.writtenNumber Refund.fieldNames j))) ∧
    (∀ r, (Json.parseText text).bind Reversal.ofJson = some r →
      ∃ j, Json.parseText text = some j ∧ r.IsWritten j ∧
        (r.Sound ↔ Pan.Acceptable (Reversal.writtenNumber j))) ∧
    (∀ c, (Json.parseText text).bind Capture.ofJson = some c →
      ∃ j, Json.parseText text = some j ∧ c.amount.Sound ∧
        c.amount.IsWritten (j.field Capture.fieldNames "amount")) ∧
    (∀ c, (Json.parseText text).bind RefundCapture.ofJson = some c →
      ∃ j, Json.parseText text = some j ∧ c.amount.Sound ∧
        c.amount.IsWritten (j.field RefundCapture.fieldNames "amount")) ∧
    (∀ card : Card, ∃ clear, (Json.parseText clear).bind Card.ofJson = some card) := by
  refine ⟨fun card accepted => ?_, fun a accepted => ?_, fun r accepted => ?_,
    fun r accepted => ?_, fun c accepted => ?_, fun c accepted => ?_,
    fun card => ⟨card.clearJson.render, card.gives_clear.text⟩⟩
  all_goals obtain ⟨j, parsed, read⟩ := Option.bind_eq_some_iff.mp accepted
  · have number := Card.pan_eq_of_ofJson read
    exact ⟨j, parsed, number, Card.sound_iff number⟩
  · have written := Authorization.isWritten read
    exact ⟨j, parsed, written, written.sound_iff⟩
  · have written := Refund.isWritten read
    exact ⟨j, parsed, written, written.sound_iff⟩
  · have written := Reversal.isWritten read
    exact ⟨j, parsed, written, written.sound_iff⟩
  · exact ⟨j, parsed, c.amount.sound, Capture.isWritten read⟩
  · exact ⟨j, parsed, c.amount.sound, RefundCapture.isWritten read⟩

namespace Origin.Sample

section

variable (number : String)

def card : Json :=
  .array [.string number, .string "411111******1111", .null, .string "visa"]

def authorization : Json :=
  .array [.string "00000000-0000-0000-0000-000000000001", .string "psp", .string "merchant",
    .number (.ofNat 105), .string " usd", card number, .string "none", .null,
    .array [.string "cardholder", .bool false, .null], .string "new", .null, .null,
    .string "2024-03-07T00:00:00Z"]

def refund : Json :=
  .array [.string "00000000-0000-0000-0000-000000000001", .string "psp", .string "merchant",
    .string "0.5", .string "EUR", card number, .string "new", .null, .null,
    .string "2024-03-07T00:00:00Z"]

def reversal : Json :=
  .array [.string "00000000-0000-0000-0000-000000000002",
    .string "00000000-0000-0000-0000-000000000001", authorization number, .null, .string "new",
    .null, .string "2024-03-07T00:00:00Z"]

end

def capture : Json :=
  .array [.string "00000000-0000-0000-0000-000000000003",
    .string "00000000-0000-0000-0000-000000000001", .string "10.50", .bool true,
    .string "created", .string "2024-03-07T00:00:00Z"]

/-- A card with a number whose last digit is wrong. -/
def mistypedCard : String :=
  "\x7b\"pan\":\"4111111111111112\",\"masked_pan\":\"411111******1112\"," ++
    "\"token_id\":null,\"scheme\":\"visa\"\x7d"

theorem acceptable : Pan.Acceptable (some "4111111111111111") := by
  rintro _ ⟨⟩
  decide

/-- What is read from the text of a value is what is read from the value. -/
theorem exists_read {α : Type} {j : Json} {read : Json → Option α} {ok : α → Prop} (plain : j.Plain)
    (readable : (read j).isSome = true)
    (sound : ∀ v, (Json.parseText j.render).bind read = some v → ok v) :
    ∃ v, (Json.parseText j.render).bind read = some v ∧ ok v := by
  obtain ⟨v, given⟩ := Option.isSome_iff_exists.mp readable
  have accepted : (Json.parseText j.render).bind read = some v := by
    rw [Json.parseText_render plain, Option.bind_some, given]
  exact ⟨v, accepted, sound v accepted⟩

end Origin.Sample

open Origin.Sample in
/-- Records with the number of a test card, in the shape of arrays. -/
theorem test_card_sound :
    (∃ c, (Json.parseText (card "4111111111111111").render).bind Card.ofJson = some c ∧
      c.Sound) ∧
    (∃ a, (Json.parseText (authorization "4111111111111111").render).bind
        (Authorization.ofJson 0) = some a ∧ a.Sound) ∧
    (∃ r, (Json.parseText (refund "4111111111111111").render).bind Refund.ofJson = some r ∧
      r.Sound) ∧
    (∃ r, (Json.parseText (reversal "4111111111111111").render).bind Reversal.ofJson = some r ∧
      r.Sound) ∧
    (∃ c, (Json.parseText capture.render).bind Capture.ofJson = some c ∧ c.amount.Sound) ∧
    (∃ c, (Json.parseText capture.render).bind RefundCapture.ofJson = some c ∧
      c.amount.Sound) := by
  have plain : (reversal "4111111111111111").Plain ∧ (refund "4111111111111111").Plain ∧
      (authorization "4111111111111111").Plain ∧ (card "4111111111111111").Plain ∧
      capture.Plain := by
    simp [reversal, refund, capture, authorization, card, Json.Plain, Json.AllPlain]
  obtain ⟨plainReversal, plainRefund, plainAuthorization, plainCard, plainCapture⟩ := plain
  refine ⟨exists_read plainCard (by decide +kernel) fun c accepted => ?_,
    exists_read plainAuthorization (by decide +kernel) fun a accepted => ?_,
    exists_read plainRefund (by decide +kernel) fun r accepted => ?_,
    exists_read plainReversal (by decide +kernel) fun r accepted => ?_,
    exists_read plainCapture (by decide +kernel) fun c accepted => ?_,
    exists_read plainCapture (by decide +kernel) fun c accepted => ?_⟩
  · obtain ⟨j, parsed, _, sound⟩ := (records_sound_iff _).1 c accepted
    cases parsed.symm.trans (Json.parseText_render plainCard)
    exact sound.mpr acceptable
  · obtain ⟨j, parsed, _, sound⟩ := (records_sound_iff _).2.1 a accepted
    cases parsed.symm.trans (Json.parseText_render plainAuthorization)
    exact sound.mpr acceptable
  · obtain ⟨j, parsed, _, sound⟩ := (records_sound_iff _).2.2.1 r accepted
    cases parsed.symm.trans (Json.parseText_render plainRefund)
    exact sound.mpr acceptable
  · obtain ⟨j, parsed, _, sound⟩ := (records_sound_iff _).2.2.2.1 r accepted
    cases parsed.symm.trans (Json.parseText_render plainReversal)
    exact sound.mpr acceptable
  · obtain ⟨j, parsed, sound, _⟩ := (records_sound_iff _).2.2.2.2.1 c accepted
    exact sound
  · obtain ⟨j, parsed, sound, _⟩ := (records_sound_iff _).2.2.2.2.2.1 c accepted
    exact sound

open Origin.Sample in
/-- A wrong number is read with a card, also in the authorization of a reversal. -/
theorem mistyped_number_read :
    (∃ c, (Json.parseText mistypedCard).bind Card.ofJson = some c ∧ ¬ c.Sound) ∧
      ∃ r, (Json.parseText (reversal "4111111111111112").render).bind Reversal.ofJson = some r ∧
        ¬ r.Sound := by
  constructor
  · refine ⟨⟨some ⟨"4111111111111112"⟩, "411111******1112", none, .visa⟩, by decide +kernel, ?_⟩
    exact fun sound => absurd (sound _ rfl).check (by decide)
  · have plain : (reversal "4111111111111112").Plain := by
      simp [reversal, authorization, card, Json.Plain, Json.AllPlain]
    refine exists_read plain (by decide +kernel) fun r accepted sound => ?_
    rw [Json.parseText_render plain, Option.bind_some] at accepted
    have acceptable := (Reversal.isWritten accepted).sound_iff.mp sound
    exact absurd (acceptable "4111111111111112" rfl) (by decide)

end CardPayments
