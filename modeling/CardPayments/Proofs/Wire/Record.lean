import CardPayments.Proofs.Wire.Value
import CardPayments.Wire.Event

/-! # Records read back

Every record is read back from its text with all its fields; only the clear number of a card is
missing, since it is never written.  Times must lie in years of four digits and be no leap seconds,
as their texts stand for them only then. -/
set_option autoImplicit false

namespace CardPayments

/-! ## Optional fields -/

namespace Json

theorem bind_some {α β : Type} {o : Option α} {v : α} {f : α → Option β} (read : o = some v) :
    (o >>= f) = f v := by
  rw [read]
  rfl

theorem Gives.bind {α β : Type} {j : Json} {read : Json → Option α} {v : α} {f : α → Option β}
    (gives : j.Gives read v) : (Json.required read (some j) >>= f) = f v :=
  bind_some gives.read

variable {α : Type} {write : α → Json} {read : Json → Option α} {o : Option α}

theorem optional_same (gives : ∀ a, o = some a → (write a).Gives read a) :
    optional read (some (ofOption write o)) = some o := by
  rw [optional_ofOption id gives, Option.map_id]
  rfl

theorem optional_string (s : Option String) :
    optional readString (some (ofOption .string s)) = some s :=
  optional_same fun text _ => gives_string text

theorem plain_optional (gives : ∀ a, o = some a → (write a).Gives read a) :
    (ofOption write o).Plain :=
  plain_ofOption fun a given => (gives a given).plain

theorem plain_string (s : Option String) : (ofOption .string s).Plain :=
  plain_ofOption fun _ _ => trivial

end Json

theorem Card.gives (card : Card) : card.toJson.Gives Card.ofJson card.redacted where
  plain := ⟨trivial, Json.plain_string card.token, trivial, trivial⟩
  read := by
    have fields : card.toJson.record fieldNames =
        some [none, some (.string card.maskedPan), some (.ofOption .string card.token),
          some card.scheme.toJson] := rfl
    rw [ofJson, Json.bind_some fields]
    dsimp only
    rw [Json.bind_some (Json.optional_none Pan.ofJson), (Json.gives_string _).bind,
      Json.bind_some (Json.optional_string _), card.scheme.gives.bind]
    rfl
  filled := nofun

theorem Initiation.gives (i : Initiation) : i.toJson.Gives Initiation.ofJson i where
  plain := ⟨trivial, trivial, Json.plain_string i.initialTraceId, trivial⟩
  read := by
    have fields : i.toJson.record fieldNames =
        some [some i.initiator.toJson, some (.bool i.recurring),
          some (.ofOption .string i.initialTraceId)] := rfl
    rw [ofJson, Json.bind_some fields]
    dsimp only
    rw [i.initiator.gives.bind, (Json.gives_bool _).bind, Json.bind_some (Json.optional_string _)]
    rfl
  filled := nofun

theorem SchemeResponse.gives {r : SchemeResponse} (dated : r.respondedAt.Plain) :
    r.toJson.Gives SchemeResponse.ofJson r where
  plain := ⟨trivial, (Json.gives_word r.stan).plain, Json.plain_string r.approvalCode, trivial,
    trivial⟩
  read := by
    have fields : r.toJson.record fieldNames =
        some [some r.code.toJson, some (.ofWord r.stan), some (.ofOption .string r.approvalCode),
          some r.respondedAt.toJson] := rfl
    rw [ofJson, Json.bind_some fields]
    dsimp only
    rw [r.code.gives.bind, (Json.gives_word _).bind, Json.bind_some (Json.optional_string _),
      dated.gives.bind]
    rfl
  filled := nofun

/-! ## Scheme data -/

namespace SchemeData

theorem isSound_ofOption {room : Nat} (s : Option String) :
    (Json.ofOption .string s).isSound room = true := by
  cases s <;> rfl

theorem ofJson_object {outer : Nat} (scheme : Scheme) {fields : List (String × Json)}
    (sound : (Json.object fields).isSound (nestingLimit - outer) = true)
    (tag : Json.lookupOnce fields "scheme" = some (some scheme.toJson)) :
    ofJson outer (.object fields) = ofFields scheme (.object fields) := by
  have named : readScheme scheme.toJson = some scheme := scheme.ofName?_name
  simp only [ofJson, if_pos sound, tag, named, Option.bind_some]

theorem gives (outer : Nat) (shallow : outer < nestingLimit) (data : SchemeData) :
    data.toJson.Gives (SchemeData.ofJson outer) data where
  plain := by
    cases data with
    | mastercard reference network settlement =>
        exact ⟨trivial, Json.plain_string reference, Json.plain_string network,
          Json.plain_string settlement, trivial⟩
    | visa transaction validation =>
        exact ⟨trivial, Json.plain_string transaction, Json.plain_string validation, trivial⟩
  read := by
    have sound : data.toJson.isSound (nestingLimit - outer) = true := by
      obtain ⟨room, enough⟩ : ∃ room, nestingLimit - outer = room + 1 :=
        ⟨nestingLimit - outer - 1, by omega⟩
      rw [enough]
      cases data <;>
        simp [toJson, Scheme.toJson, Json.isSound, Json.allFieldsSound, isSound_ofOption]
    cases data with
    | mastercard reference network settlement =>
        have fields : (mastercard reference network settlement).toJson.record
            ["banknet_reference", "financial_network_code", "settlement_date"] =
              some [some (.ofOption .string reference), some (.ofOption .string network),
                some (.ofOption .string settlement)] := rfl
        refine (ofJson_object .mastercard sound rfl).trans ?_
        change ofFields .mastercard (mastercard reference network settlement).toJson = _
        rw [ofFields, Json.bind_some fields]
        dsimp only
        rw [Json.bind_some (Json.optional_string _), Json.bind_some (Json.optional_string _),
          Json.bind_some (Json.optional_string _)]
        rfl
    | visa transaction validation =>
        have fields : (visa transaction validation).toJson.record
            ["transaction_id", "validation_code"] =
              some [some (.ofOption .string transaction), some (.ofOption .string validation)] :=
          rfl
        refine (ofJson_object .visa sound rfl).trans ?_
        change ofFields .visa (visa transaction validation).toJson = _
        rw [ofFields, Json.bind_some fields]
        dsimp only
        rw [Json.bind_some (Json.optional_string _), Json.bind_some (Json.optional_string _)]
        rfl
  filled := by cases data <;> exact nofun

end SchemeData

/-! ## Authorizations and refunds -/

namespace Authorization

structure Dated (a : Authorization) : Prop where
  createdAt : a.createdAt.Plain
  response : ∀ r, a.response = some r → r.respondedAt.Plain

def redacted (a : Authorization) : Authorization := { a with card := a.card.redacted }

theorem gives (outer : Nat) (shallow : outer + 1 < nestingLimit) {a : Authorization}
    (dated : a.Dated) : a.toJson.Gives (Authorization.ofJson outer) a.redacted where
  plain := ⟨trivial, trivial, trivial, trivial, trivial, a.card.gives.plain, trivial,
    Json.plain_optional fun e _ => e.gives, a.initiation.gives.plain, trivial,
    Json.plain_optional fun r given => SchemeResponse.gives (dated.response r given),
    Json.plain_optional fun data _ => SchemeData.gives (outer + 1) shallow data, trivial, trivial⟩
  read := by
    have fields : a.toJson.record fieldNames =
        some [some a.id.toJson, some (.string a.psp), some (.string a.merchant),
          some a.amount.toJson, some a.currency.toJson, some a.card.toJson,
          some a.exemption.toJson, some (.ofOption Exemption.toJson a.appliedExemption),
          some a.initiation.toJson, some a.status.toJson,
          some (.ofOption SchemeResponse.toJson a.response),
          some (.ofOption SchemeData.toJson a.schemeData), some a.createdAt.toJson] := rfl
    have applied := Json.optional_same (o := a.appliedExemption) fun e _ => e.gives
    have response := Json.optional_same (o := a.response)
      fun r given => SchemeResponse.gives (dated.response r given)
    have data := Json.optional_same (o := a.schemeData)
      fun data _ => SchemeData.gives (outer + 1) shallow data
    rw [ofJson, Json.bind_some fields]
    dsimp only
    rw [a.id.gives.bind, (Json.gives_string _).bind, (Json.gives_string _).bind,
      a.amount.gives.bind, a.currency.gives.bind, a.card.gives.bind, a.exemption.gives.bind,
      Json.bind_some applied, a.initiation.gives.bind, a.status.gives.bind,
      Json.bind_some response, Json.bind_some data, dated.createdAt.gives.bind]
    rfl
  filled := nofun

end Authorization

namespace Refund

structure Dated (r : Refund) : Prop where
  createdAt : r.createdAt.Plain
  response : ∀ s, r.response = some s → s.respondedAt.Plain

def redacted (r : Refund) : Refund := { r with card := r.card.redacted }

theorem gives {r : Refund} (dated : r.Dated) : r.toJson.Gives Refund.ofJson r.redacted where
  plain := ⟨trivial, trivial, trivial, trivial, trivial, r.card.gives.plain, trivial,
    Json.plain_optional fun s given => SchemeResponse.gives (dated.response s given),
    Json.plain_optional fun data _ => SchemeData.gives 1 (by decide) data, trivial,
    trivial⟩
  read := by
    have fields : r.toJson.record fieldNames =
        some [some r.id.toJson, some (.string r.psp), some (.string r.merchant),
          some r.amount.toJson, some r.currency.toJson, some r.card.toJson, some r.status.toJson,
          some (.ofOption SchemeResponse.toJson r.response),
          some (.ofOption SchemeData.toJson r.schemeData), some r.createdAt.toJson] := rfl
    have response := Json.optional_same (o := r.response)
      fun s given => SchemeResponse.gives (dated.response s given)
    have data := Json.optional_same (o := r.schemeData)
      fun data _ => SchemeData.gives 1 (by decide) data
    rw [ofJson, Json.bind_some fields]
    dsimp only
    rw [r.id.gives.bind, (Json.gives_string _).bind, (Json.gives_string _).bind,
      r.amount.gives.bind, r.currency.gives.bind, r.card.gives.bind, r.status.gives.bind,
      Json.bind_some response, Json.bind_some data, dated.createdAt.gives.bind]
    rfl
  filled := nofun

end Refund

namespace Reversal

structure Dated (r : Reversal) : Prop where
  createdAt : r.createdAt.Plain
  response : ∀ s, r.response = some s → s.respondedAt.Plain
  authorization : ∀ a, r.authorization = some a → a.Dated

theorem gives {r : Reversal} (dated : r.Dated) : r.toJson.Gives Reversal.ofJson r.row where
  plain := ⟨trivial, trivial,
    Json.plain_ofOption fun a given =>
      (Authorization.gives 1 (by decide) (dated.authorization a given)).plain,
    Json.plain_optional fun a _ => a.gives, trivial,
    Json.plain_optional fun s given => SchemeResponse.gives (dated.response s given), trivial,
    trivial⟩
  read := by
    have fields : r.toJson.record fieldNames =
        some [some r.id.toJson, some r.authorizationId.toJson,
          some (.ofOption Authorization.toJson r.authorization),
          some (.ofOption Amount.toJson r.amount), some r.status.toJson,
          some (.ofOption SchemeResponse.toJson r.response), some r.createdAt.toJson] := rfl
    have authorization := Json.optional_ofOption Authorization.redacted (o := r.authorization)
      fun a given => Authorization.gives 1 (by decide) (dated.authorization a given)
    have amount := Json.optional_same (o := r.amount) fun a _ => a.gives
    have response := Json.optional_same (o := r.response)
      fun s given => SchemeResponse.gives (dated.response s given)
    rw [ofJson, Json.bind_some fields]
    dsimp only
    rw [r.id.gives.bind, r.authorizationId.gives.bind, Json.bind_some authorization,
      Json.bind_some amount, r.status.gives.bind, Json.bind_some response,
      dated.createdAt.gives.bind]
    rfl
  filled := nofun

end Reversal

/-! ## Captures and trace numbers -/

theorem Capture.gives {c : Capture} (dated : c.createdAt.Plain) :
    c.toJson.Gives Capture.ofJson c where
  plain := ⟨trivial, trivial, trivial, trivial, trivial, trivial, trivial⟩
  read := by
    have fields : c.toJson.record fieldNames =
        some [some c.id.toJson, some c.authorizationId.toJson, some c.amount.toJson,
          some (.bool c.isFinal), some c.status.toJson, some c.createdAt.toJson] := rfl
    rw [ofJson, Json.bind_some fields]
    dsimp only
    rw [c.id.gives.bind, c.authorizationId.gives.bind, c.amount.gives.bind,
      (Json.gives_bool _).bind, c.status.gives.bind, dated.gives.bind]
    rfl
  filled := nofun

theorem RefundCapture.gives {c : RefundCapture} (dated : c.createdAt.Plain) :
    c.toJson.Gives RefundCapture.ofJson c where
  plain := ⟨trivial, trivial, trivial, trivial, trivial, trivial, trivial⟩
  read := by
    have fields : c.toJson.record fieldNames =
        some [some c.id.toJson, some c.refundId.toJson, some c.amount.toJson,
          some (.bool c.isFinal), some c.status.toJson, some c.createdAt.toJson] := rfl
    rw [ofJson, Json.bind_some fields]
    dsimp only
    rw [c.id.gives.bind, c.refundId.gives.bind, c.amount.gives.bind, (Json.gives_bool _).bind,
      c.status.gives.bind, dated.gives.bind]
    rfl
  filled := nofun

theorem CaptureSummary.gives (s : CaptureSummary) : s.toJson.Gives CaptureSummary.ofJson s where
  plain := ⟨trivial, trivial, trivial⟩
  read := by
    have fields : s.toJson.record fieldNames =
        some [some (.ofDecimal s.total), some (.bool s.hasFinal)] := rfl
    rw [ofJson, Json.bind_some fields]
    dsimp only
    rw [(Json.gives_decimal _).bind, (Json.gives_bool _).bind]
    rfl
  filled := nofun

theorem Block.gives (b : Block) : b.toJson.Gives Block.ofJson b where
  plain := ⟨(Json.gives_word b.nextValue).plain, trivial, trivial⟩
  read := by
    have fields : b.toJson.record fieldNames =
        some [some (.ofWord b.nextValue), some (.string b.tag)] := rfl
    rw [ofJson, Json.bind_some fields]
    dsimp only
    rw [(Json.gives_word _).bind, (Json.gives_string _).bind]
    rfl
  filled := nofun

/-! ## Events -/

theorem CaptureEvent.gives {e : CaptureEvent} (dated : e.capturedAt.Plain) :
    e.toJson.Gives CaptureEvent.ofJson e where
  plain := ⟨trivial, trivial, trivial, trivial, trivial, trivial, trivial, trivial, trivial,
    trivial⟩
  read := by
    have fields : e.toJson.record fieldNames =
        some [some e.captureId.toJson, some e.authorizationId.toJson, some (.string e.psp),
          some (.ofDecimal e.amount), some e.currency.toJson, some (.bool e.isFinal),
          some e.scheme.toJson, some (.string e.maskedPan), some e.capturedAt.toJson] := rfl
    rw [ofJson, Json.bind_some fields]
    dsimp only
    rw [e.captureId.gives.bind, e.authorizationId.gives.bind, (Json.gives_string _).bind,
      (Json.gives_decimal _).bind, e.currency.gives.bind, (Json.gives_bool _).bind,
      e.scheme.gives.bind, (Json.gives_string _).bind, dated.gives.bind]
    rfl
  filled := nofun

theorem RefundCaptureEvent.gives {e : RefundCaptureEvent} (dated : e.capturedAt.Plain) :
    e.toJson.Gives RefundCaptureEvent.ofJson e where
  plain := ⟨trivial, trivial, trivial, trivial, trivial, trivial, trivial, trivial, trivial,
    trivial⟩
  read := by
    have fields : e.toJson.record fieldNames =
        some [some e.captureId.toJson, some e.refundId.toJson, some (.string e.psp),
          some (.ofDecimal e.amount), some e.currency.toJson, some (.bool e.isFinal),
          some e.scheme.toJson, some (.string e.maskedPan), some e.capturedAt.toJson] := rfl
    rw [ofJson, Json.bind_some fields]
    dsimp only
    rw [e.captureId.gives.bind, e.refundId.gives.bind, (Json.gives_string _).bind,
      (Json.gives_decimal _).bind, e.currency.gives.bind, (Json.gives_bool _).bind,
      e.scheme.gives.bind, (Json.gives_string _).bind, dated.gives.bind]
    rfl
  filled := nofun

/-! ## All records -/

/-- What a reader gets from the text of a value. -/
def Json.reread {α : Type} (j : Json) (read : Json → Option α) : Option α :=
  (parseText j.render).bind read

/-- Every record comes back from its text with all that it holds but the clear numbers of cards, on
which its text does not depend. -/
theorem records_reread :
    (∀ a : Authorization, a.Dated → a.toJson.reread (Authorization.ofJson 0) = some a.redacted) ∧
    (∀ r : Refund, r.Dated → r.toJson.reread Refund.ofJson = some r.redacted) ∧
    (∀ r : Reversal, r.Dated → r.toJson.reread Reversal.ofJson = some r.row) ∧
    (∀ c : Capture, c.createdAt.Plain → c.toJson.reread Capture.ofJson = some c) ∧
    (∀ c : RefundCapture, c.createdAt.Plain → c.toJson.reread RefundCapture.ofJson = some c) ∧
    (∀ s : CaptureSummary, s.toJson.reread CaptureSummary.ofJson = some s) ∧
    (∀ b : Block, b.toJson.reread Block.ofJson = some b) ∧
    (∀ r : SchemeResponse, r.respondedAt.Plain → r.toJson.reread SchemeResponse.ofJson = some r) ∧
    (∀ data : SchemeData, data.toJson.reread (SchemeData.ofJson 0) = some data) ∧
    (∀ e : CaptureEvent, e.capturedAt.Plain → e.toJson.reread CaptureEvent.ofJson = some e) ∧
    (∀ e : RefundCaptureEvent, e.capturedAt.Plain →
      e.toJson.reread RefundCaptureEvent.ofJson = some e) ∧
    (∀ a : Authorization, a.redacted.toJson.render = a.toJson.render) ∧
    (∀ r : Refund, r.redacted.toJson.render = r.toJson.render) ∧
    (∀ r : Reversal, r.row.toJson.render = r.toJson.render) := by
  refine ⟨fun a dated => ?_, fun r dated => (Refund.gives dated).text,
    fun r dated => (Reversal.gives dated).text, fun c dated => (Capture.gives dated).text,
    fun c dated => (RefundCapture.gives dated).text, fun s => s.gives.text, fun b => b.gives.text,
    fun r dated => (SchemeResponse.gives dated).text, fun data => ?_,
    fun e dated => (CaptureEvent.gives dated).text,
    fun e dated => (RefundCaptureEvent.gives dated).text, fun a => rfl, fun r => rfl, fun r => ?_⟩
  · exact (Authorization.gives 0 (by decide) dated).text
  · exact (SchemeData.gives 0 (by decide) data).text
  · cases authorization : r.authorization with
    | none => simp only [Reversal.toJson, Reversal.row, authorization, Option.map_none]
    | some a =>
        simp only [Reversal.toJson, Reversal.row, authorization, Option.map_some, Json.ofOption]
        rfl

namespace Wire.Sample

/-- The last nanosecond of 29 February 2000. -/
def leapDay : Instant := ⟨951868799, 999999999⟩

def response : SchemeResponse := ⟨⟨"00"⟩, 1, none, leapDay⟩

def authorization : Authorization :=
  { id := .ofNat 1, psp := "psp \"ä\"", merchant := "merchant",
    amount := ⟨⟨10500, 3, by decide, by decide⟩, by decide⟩, currency := ⟨"USD", by decide⟩,
    card := ⟨some ⟨"4111111111111111"⟩, "411111******1111", some "token", .visa⟩,
    exemption := .lowValue, appliedExemption := none, initiation := .byCardholder,
    status := .approved,
    response := some response, schemeData := some (.visa (some "1") none),
    createdAt := leapDay }

def refund : Refund :=
  { Refund.intake (.ofNat 1) "psp" "merchant" authorization.amount authorization.currency
      authorization.card leapDay with response := authorization.response }

def reversal : Reversal :=
  { Reversal.ofAuthorization (.ofNat 2) authorization leapDay with
    response := authorization.response }

def capture : Capture := ⟨.ofNat 3, .ofNat 1, authorization.amount, true, .created, leapDay⟩

def refundCapture : RefundCapture :=
  ⟨.ofNat 3, .ofNat 1, authorization.amount, true, .created, leapDay⟩

theorem leapDay_plain : leapDay.Plain := ⟨by decide, by decide, by decide⟩

theorem dated : authorization.Dated :=
  ⟨leapDay_plain, fun r given => by cases given; exact leapDay_plain⟩

end Wire.Sample

open Wire.Sample in
/-- Records of a leap day, with an approval in each that can hold one. -/
theorem leap_day_reread :
    authorization.toJson.reread (Authorization.ofJson 0) = some authorization.redacted ∧
    refund.toJson.reread Refund.ofJson = some refund.redacted ∧
    reversal.toJson.reread Reversal.ofJson =
      some { reversal with authorization := some authorization.redacted } ∧
    capture.toJson.reread Capture.ofJson = some capture ∧
    refundCapture.toJson.reread RefundCapture.ofJson = some refundCapture ∧
    response.toJson.reread SchemeResponse.ofJson = some response ∧
    (CaptureEvent.ofCapture authorization capture).toJson.reread CaptureEvent.ofJson =
      some (.ofCapture authorization capture) ∧
    (RefundCaptureEvent.ofCapture refund refundCapture).toJson.reread RefundCaptureEvent.ofJson =
      some (.ofCapture refund refundCapture) := by
  obtain ⟨authorizations, refunds, reversals, captures, refundCaptures, _, _, responses, _, events,
    refundEvents, _⟩ := records_reread
  refine ⟨authorizations _ dated, refunds _ ⟨leapDay_plain, ?_⟩,
    reversals _ ⟨leapDay_plain, ?_, ?_⟩, captures _ leapDay_plain, refundCaptures _ leapDay_plain,
    responses _ leapDay_plain, events _ leapDay_plain, refundEvents _ leapDay_plain⟩
  · exact dated.response
  · exact dated.response
  · intro a given
    cases given
    exact dated

end CardPayments
