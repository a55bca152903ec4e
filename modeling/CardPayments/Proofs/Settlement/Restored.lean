import CardPayments.Proofs.Intake.Archive
import CardPayments.Proofs.Settlement.Coverage
import CardPayments.Proofs.Store.Tokens
import CardPayments.Proofs.Traffic.Told
import CardPayments.Proofs.Undisturbed.Reverse

/-! # What a reversal carries

The clear number of a card leaves an authorization when it is stored, and comes back when the
authorization is reversed: the row has kept the token, the vault the number.  However requests take
turns in between, whatever fails or is dropped, the number is the one that was given, and the amount
is what the summary that was read leaves of the authorized one. -/
set_option autoImplicit false

namespace CardPayments

variable {told : Answers} {p : Processor}

namespace Request

def authorizationId? : Request → Option Uuid
  | .authorize a => some a.id
  | _ => none

/-- Only authorizing stores an authorization, with a token that was made for its card. -/
def Registers (told : Answers) : Request → Call → Prop
  | q, .createAuthorization b => ∃ a token, q = .authorize a ∧
      told (.tokenize a.merchant a.card) token ∧
      b = { a with card := { a.card with token := some token }, status := .new }
  | _, _ => True

end Request

/-- A reversal is sent for what was read of an authorization, of its card and of its captures. -/
structure Reversal.Restores (told : Answers) (psp : String) (r : Reversal) (a : Authorization)
    (card : Card) (seen : CaptureSummary) (amount : Amount) : Prop where
  shown : told (.authorization psp r.authorizationId) a
  opened : told (.detokenize a.merchant a.card) card
  summed : told (.captureSummary a.id) seen
  left : a.amount.value.minus seen.total = .ok amount.value

/-- What is sent for a reversal that names its authorization by id only. -/
def Request.Restores (told : Answers) : Request → Scheme → Message → Prop
  | .reverse psp r, scheme, message => r.authorization = none →
      ∃ a card seen amount, r.Restores told psp a card seen amount ∧ scheme = card.scheme ∧
        message = .reverse (r.prepared { a with card := card } amount)
  | _, _, _ => True

/-- The message that the request is about to send, and the scheme whose network it goes to. -/
def Stage.sends? {q : Request} : Stage q → Option (Scheme × Message)
  | .running (.send _ scheme message _) => some (scheme, message)
  | _ => none

theorem Stage.Follows.sends {q : Request} {C : Call → Prop} {M : Scheme → Message → Prop}
    {stage : Stage q} (follows : stage.Follows told C M) {scheme : Scheme} {message : Message}
    (sends : stage.sends? = some (scheme, message)) : M scheme message := by
  cases stage with
  | waiting => cases sends
  | dropped => cases sends
  | running flow =>
      cases flow with
      | finish held answer => cases sends
      | ask held call next => cases sends
      | send held toScheme sent next =>
          cases sends
          exact follows.1

/-! ## Requests on their way -/

theorem Request.Asks.registers {q : Request} {call : Call} (asks : q.Asks call)
    (other : ∀ a, q ≠ .authorize a) : q.Registers told call := by
  cases call with
  | createAuthorization b =>
      cases q with
      | authorize a => exact absurd rfl (other a)
      | _ => exact asks.elim False.elim False.elim
  | _ => trivial

theorem Request.Concludes.registers {q : Request} {call : Call} (concludes : q.Concludes call) :
    q.Registers told call := by
  cases call with
  | createAuthorization b => cases q <;> exact concludes.elim
  | _ => trivial

theorem authorize_follows (a : Authorization) :
    (p.authorize a).Follows told ((Request.authorize a).Registers told)
      ((Request.authorize a).Restores told) := by
  refine Flow.follows_require trivial fun token made => ?_
  refine Flow.follows_require ⟨a, token, rfl, made, rfl⟩ fun _ _ => ?_
  have rest := assessAuthorization_only p (a := a)
    (b := { a with card := { a.card with token := some token }, status := .new }) rfl
  exact rest.follows (fun _ => Request.Concludes.registers) fun _ _ _ => trivial

section

variable {psp : String} {r : Reversal}

theorem sendReversal_follows {a : Authorization} {card : Card} {seen : CaptureSummary}
    {amount : Amount} (restores : r.Restores told psp a card seen amount) :
    (p.sendReversal (r.prepared { a with card := card } amount)).Follows told
      ((Request.reverse psp r).Registers told) ((Request.reverse psp r).Restores told) := by
  rw [Processor.sendReversal, Processor.dispatchReversal]
  refine Flow.follows_dispatch (fun _ => ⟨a, card, seen, amount, restores, rfl, rfl⟩)
    fun attached outcome => ?_
  cases outcome with
  | ok _ => exact Flow.follows_require trivial fun _ _ => trivial
  | error e => trivial

theorem storeReversal_follows {a : Authorization} {card : Card} {seen : CaptureSummary}
    (shown : told (.authorization psp r.authorizationId) a)
    (opened : told (.detokenize a.merchant a.card) card)
    (summed : told (.captureSummary a.id) seen) :
    (p.storeReversal { a with card := card } seen r).Follows told
      ((Request.reverse psp r).Registers told) ((Request.reverse psp r).Restores told) := by
  rw [Processor.storeReversal]
  split
  · next amount isLeft =>
      have restores : r.Restores told psp a card seen amount :=
        ⟨shown, opened, summed, CaptureSummary.reversalAmount_eq_ok.mp isLeft⟩
      refine Flow.follows_require trivial fun _ _ => ?_
      refine Flow.follows_require trivial fun current _ => ?_
      split
      · exact sendReversal_follows restores
      · exact Flow.follows_require trivial fun _ _ => trivial
  · split
    · trivial
    · trivial

theorem reverseAuthorization_follows {a : Authorization}
    (shown : told (.authorization psp r.authorizationId) a) :
    (p.reverseAuthorization psp r a).Follows told ((Request.reverse psp r).Registers told)
      ((Request.reverse psp r).Restores told) := by
  rw [Processor.reverseAuthorization]
  split
  · trivial
  · split
    · trivial
    · split
      · trivial
      · refine Flow.follows_require trivial fun card opened => ?_
        refine Flow.follows_require trivial fun reversed _ => ?_
        split
        · trivial
        · refine Flow.follows_require trivial fun isFinal _ => ?_
          split
          · trivial
          · exact Flow.follows_require trivial fun seen summed =>
              storeReversal_follows shown opened summed

/-- A reversal without its authorization looks it up, and only then goes on. -/
theorem reverse_follows (bare : r.authorization = none) :
    (p.reverse psp r).Follows told ((Request.reverse psp r).Registers told)
      ((Request.reverse psp r).Restores told) := by
  rw [Processor.reverse, bare]
  exact Flow.follows_require trivial fun a shown => reverseAuthorization_follows shown

end

theorem Request.flow_follows (q : Request) :
    (q.flow p).Follows told (q.Registers told) (q.Restores told) := by
  have others (other : ∀ a, q ≠ .authorize a)
      (sends : ∀ scheme message, q.Restores told scheme message) :
      (q.flow p).Follows told (q.Registers told) (q.Restores told) :=
    (q.flow_only p).follows (fun _ asks => asks.registers other) fun scheme message _ =>
      sends scheme message
  cases q with
  | authorize a => exact authorize_follows a
  | reverse psp r =>
      cases carries : r.authorization with
      | none => exact reverse_follows carries
      | some a =>
          refine others (by simp) fun _ _ bare => ?_
          rw [carries] at bare
          cases bare
  | refund r => exact others (by simp) fun _ _ => trivial
  | capture psp c => exact others (by simp) fun _ _ => trivial
  | captureRefund psp c => exact others (by simp) fun _ _ => trivial

/-! ## Rows and their numbers -/

/-- The row of an authorization has a token under which the vault holds its clear number. -/
structure Vault.Backs (v : Vault) (a row : Authorization) (pan : Pan) : Prop where
  clear : a.card.pan = some pan
  id : row.id = a.id
  psp : row.psp = a.psp
  amount : row.amount = a.amount
  scheme : row.card.scheme = a.card.scheme
  held : ∃ token, row.card.token = some token ∧ v.Holds row.merchant token pan

theorem Vault.Backs.mono {v w : Vault} {a row : Authorization} {pan : Pan}
    (backs : v.Backs a row pan) (kept : v.Within w) : w.Backs a row pan := by
  obtain ⟨token, isToken, holds⟩ := backs.held
  exact ⟨backs.clear, backs.id, backs.psp, backs.amount, backs.scheme, token, isToken,
    kept _ _ _ holds⟩

/-- A row after a call is a row before it but for what was decided, or one that the call stores. -/
theorem Stores.mem_authorizations {s : Stores} {call : Call} {row : Authorization}
    (member : row ∈ (s.answer call).2.authorizations.rows) :
    (∃ old ∈ s.authorizations.rows, row = { old with
      status := row.status
      appliedExemption := row.appliedExemption
      response := row.response }) ∨ ∃ b, call = .createAuthorization b ∧ row = b.row := by
  rcases Archive.authorizations_lawful.mem_rows member with
    ⟨old, stored, rfl | ⟨b, rfl⟩⟩ | ⟨b, creates, rfl⟩
  · exact Or.inl ⟨row, stored, rfl⟩
  · exact Or.inl ⟨old, stored, rfl⟩
  · exact Or.inr ⟨b, creates, rfl⟩

namespace Traffic

variable {ι : Type} [DecidableEq ι] {requests : ι → Request} {s : Traffic requests} {i : ι}
  {schedule : List (Act ι)}

omit [DecidableEq ι] in
theorem start_issued (requests : ι → Request) {stores : Stores} (noTokens : stores.vault = .empty) :
    (start requests stores).stores.vault.Issued := by
  change stores.vault.Issued
  rw [noTokens]
  exact Vault.empty_issued

theorem play_vault (issued : s.stores.vault.Issued) (schedule : List (Act ι)) :
    (s.play p schedule).stores.vault.Issued ∧
      s.stores.vault.Within (s.play p schedule).stores.vault := by
  induction schedule using List.reverseRecOn with
  | nil => exact ⟨issued, .refl _⟩
  | append_singleton before a ih =>
      rw [play_concat]
      rcases (s.play p before).act_stores (p := p) a with same | ⟨_, _, call, _, _, after⟩
      · rwa [same]
      · rw [after]
        obtain ⟨later, kept⟩ := Stores.answer_vault_keeps _ call ih.1
        exact ⟨later, ih.2.trans kept⟩

/-- What the vault holds at some point of a schedule it holds at its end. -/
theorem play_within (issued : s.stores.vault.Issued) (before after : List (Act ι)) :
    (s.play p before).stores.vault.Within (s.play p (before ++ after)).stores.vault := by
  rw [play_append]
  exact (play_vault (play_vault issued before).1 after).2

theorem Told.tokenized (issued : s.stores.vault.Issued) {merchant token : String} {card : Card}
    (told : Told p s schedule i (.tokenize merchant card) token) :
    ∃ pan, card.pan = some pan ∧ (s.play p schedule).stores.vault.Holds merchant token pan := by
  obtain ⟨before, after, split, answered, stores⟩ := told.stores
  rw [Stores.answer] at answered stores
  split at answered
  · next made vault done =>
      cases answered
      obtain ⟨pan, clear, rfl, rfl⟩ := Vault.tokenize_ok done
      refine ⟨pan, clear, ?_⟩
      have kept := play_within (p := p) issued (before ++ [.answer i]) after
      rw [List.append_assoc, List.singleton_append, ← split, stores, done] at kept
      exact kept _ _ _ (Vault.holds_added ..)
  · cases answered

theorem Told.detokenized (issued : s.stores.vault.Issued) {merchant : String} {card opened : Card}
    (told : Told p s schedule i (.detokenize merchant card) opened) :
    ∃ token pan, card.token = some token ∧
      (s.play p schedule).stores.vault.Holds merchant token pan ∧
      opened = { card with pan := some pan } := by
  obtain ⟨before, after, split, answered, _⟩ := told.stores
  obtain ⟨token, pan, isToken, holds, isOpened⟩ := Vault.detokenize_ok answered
  rw [split]
  exact ⟨token, pan, isToken, play_within issued before _ _ _ _ holds, isOpened⟩

/-- Every row comes from a request, and the vault holds the number of its card. -/
theorem play_backed (stores : Stores) (noTokens : stores.vault = .empty)
    (noRows : stores.authorizations = .empty) (schedule : List (Act ι)) :
    ∀ row ∈ ((start requests stores).play p schedule).stores.authorizations.rows,
      ∃ j a pan, requests j = .authorize a ∧
        ((start requests stores).play p schedule).stores.vault.Backs a row pan := by
  have issued := start_issued requests noTokens
  induction schedule using List.reverseRecOn with
  | nil =>
      intro row member
      change row ∈ stores.authorizations.rows at member
      rw [noRows] at member
      cases member
  | append_singleton before a ih =>
      intro row member
      have kept := play_within (p := p) issued before [a]
      rw [play_concat] at kept member ⊢
      rcases act_stores (p := p) _ a with same | ⟨i, held, call, next, asks, after⟩
      · rw [same] at member
        obtain ⟨j, b, pan, isAuthorize, backs⟩ := ih row member
        exact ⟨j, b, pan, isAuthorize, backs.mono kept⟩
      · rw [after] at member
        rcases Stores.mem_authorizations member with ⟨old, wasStored, same⟩ | ⟨b, rfl, rfl⟩
        · obtain ⟨j, b, pan, isAuthorize, backs⟩ := ih old wasStored
          rw [same]
          exact ⟨j, b, pan, isAuthorize, (backs.mono kept).clear, backs.id, backs.psp,
            backs.amount, backs.scheme, (backs.mono kept).held⟩
        · have follows := play_follows (p := p) stores before
            (fun j => (requests j).flow_follows) before [] (List.append_nil _).symm i
          rw [asks] at follows
          obtain ⟨a, token, isAuthorize, made, rfl⟩ := follows.1
          obtain ⟨pan, clear, holds⟩ := made.tokenized issued
          exact ⟨i, a, pan, isAuthorize, clear, rfl, rfl, rfl, rfl, token, rfl,
            kept _ _ _ holds⟩

/-- An authorization that was shown is backed, with the number that was given for it. -/
theorem Told.shown {stores : Stores} (noTokens : stores.vault = .empty)
    (noRows : stores.authorizations = .empty) {psp : String} {id : Uuid} {a : Authorization}
    (told : Told p (start requests stores) schedule i (.authorization psp id) a) :
    a.id = id ∧ a.psp = psp ∧ ∃ j b pan, requests j = .authorize b ∧
      ((start requests stores).play p schedule).stores.vault.Backs b a pan := by
  obtain ⟨before, after, split, answered, _⟩ := told.stores
  obtain ⟨row, found, isRow, isPsp, rfl⟩ := TransactionStore.getFull_shows answered
  obtain ⟨j, b, pan, isAuthorize, backs⟩ :=
    play_backed stores noTokens noRows before row (List.mem_of_find?_eq_some found)
  have issued := start_issued requests noTokens
  have later := backs.mono (play_within issued before (.answer i :: after))
  rw [← split] at later
  exact ⟨isRow, isPsp, j, b, pan, isAuthorize, later.clear, later.id, later.psp, later.amount,
    later.scheme, later.held⟩

theorem Told.summed {id : Uuid} {seen : CaptureSummary}
    (told : Told p s schedule i (.captureSummary id) seen) : 0 ≤ seen.total.number := by
  obtain ⟨before, _, _, answered, _⟩ := told.stores
  have grows := CaptureSummary.extend_grows .empty seen
    (((s.play p before).stores.captures.ofAuthorization id).map Capture.entry)
    CaptureSummary.empty_nonneg answered
  exact CaptureSummary.empty_nonneg.trans grows

end Traffic

/-- What a total leaves of an amount is exact, or rounded where its digits do not fit. -/
theorem Amount.left_rounds {authorized left : Amount} {total : Decimal}
    (difference : authorized.value.minus total = .ok left.value) (nonneg : 0 ≤ total.number) :
    Decimal.Rounds (authorized.value.number - total.number) left.value ∧
      ∀ scale, Exact authorized scale → total.scale ≤ scale →
        left.value.number = authorized.value.number - total.number := by
  have le := Decimal.le_of_minus_positive difference left.positive
  refine ⟨Decimal.minus_ok _ _ _ le difference, fun scale exact scales => ?_⟩
  exact exact.remaining_eq ⟨total, false⟩ left.value difference nonneg le
    ((Decimal.onGrid_number total nonneg).mono scales)

/-- Whenever a reversal that names its authorization by id is about to be sent, exactly one request
has given an authorization of that id; the reversal carries the clear number that was given there,
goes to the network of that card, and is of the amount that was given there less the total of a
summary that the reversal itself has read. -/
theorem reversals_restore_what_was_authorized {ι : Type} [DecidableEq ι] (p : Processor)
    (requests : ι → Request) (distinct : DistinctIds Request.authorizationId? requests)
    (stores : Stores) (noTokens : stores.vault = .empty) (noRows : stores.authorizations = .empty)
    (schedule : List (Act ι)) (i : ι) (psp : String) (r : Reversal)
    (reverses : requests i = .reverse psp r) (bare : r.authorization = none)
    (scheme : Scheme) (message : Message)
    (sends : (((Traffic.start requests stores).play p schedule).stage i).sends? =
      some (scheme, message)) :
    ∃ sent shown amount pan, message = .reverse sent ∧ sent.authorization = some shown ∧
      sent.amount = some amount ∧ shown.card.pan = some pan ∧
      ∃ j a seen, requests j = .authorize a ∧ a.id = r.authorizationId ∧ a.psp = psp ∧
        (∀ k, (requests k).authorizationId? = some r.authorizationId → k = j) ∧
        a.card.pan = some pan ∧ scheme = a.card.scheme ∧
        Traffic.Told p (.start requests stores) schedule i (.captureSummary a.id) seen ∧
        a.amount.value.minus seen.total = .ok amount.value ∧
        Decimal.Rounds (a.amount.value.number - seen.total.number) amount.value ∧
        ∀ scale, Exact a.amount scale → seen.total.scale ≤ scale →
          amount.value.number = a.amount.value.number - seen.total.number := by
  have follows := Traffic.play_follows (p := p) stores schedule
    (fun j => (requests j).flow_follows) schedule [] (List.append_nil _).symm i
  have restores := follows.sends sends
  rw [reverses] at restores
  obtain ⟨shown, card, seen, amount, restores, isScheme, isMessage⟩ := restores bare
  obtain ⟨named, isPsp, j, a, pan, authorizes, backs⟩ := restores.shown.shown noTokens noRows
  have issued := Traffic.start_issued requests noTokens
  -- the number that was looked up is under the token of the row
  obtain ⟨token, number, isToken, holds, opened⟩ := restores.opened.detokenized issued
  obtain ⟨kept, isKept, keeps⟩ := backs.held
  obtain rfl : token = kept := Option.some.inj (isToken.symm.trans isKept)
  obtain rfl : number = pan := Option.some.inj (holds.symm.trans keeps)
  have sameId : a.id = r.authorizationId := backs.id.symm.trans named
  have difference := restores.left
  rw [backs.amount] at difference
  have summed := restores.summed
  rw [backs.id] at summed
  have clear : card.pan = some number := by rw [opened]
  have isCard : scheme = a.card.scheme := by rw [isScheme, opened, ← backs.scheme]
  obtain ⟨rounds, exact⟩ := Amount.left_rounds difference summed.summed
  refine ⟨_, _, amount, number, isMessage, rfl, rfl, clear, j, a, seen, authorizes, sameId,
    backs.psp.symm.trans isPsp, fun k own => ?_, backs.clear, isCard, summed, difference, rounds,
    exact⟩
  refine distinct k j r.authorizationId own ?_
  rw [authorizes, ← sameId]
  rfl

/-! ## A run -/

namespace Restored.Sample

def authorization (id : ℕ) (number : String) : Authorization :=
  .intake (.ofNat id) "psp" "shop" CardPayments.Sample.ten
    CardPayments.Sample.authorization.currency (.ofPan ⟨number⟩ .visa) .none (.ofSeconds 0)

inductive Errand where
  | sale
  | otherSale
  | capture
  | reversal
deriving DecidableEq

open Errand

/-- Two authorizations of one shop; a capture and a reversal of the first one. -/
def requests : Errand → Request
  | sale => .authorize (authorization 1 "4111111111111111")
  | otherSale => .authorize (authorization 2 "4012888888881881")
  | capture =>
      .capture "psp" ⟨.ofNat 3, .ofNat 1, CardPayments.Sample.four, false, .created, .ofSeconds 0⟩
  | reversal => .reverse "psp" (.ofId (.ofNat 4) (.ofNat 1) (.ofSeconds 0))

theorem requests_distinct : DistinctIds Request.authorizationId? requests := by
  have apart (i j : Errand) : (requests i).authorizationId?.isSome = true →
      (requests i).authorizationId? = (requests j).authorizationId? → i = j := by
    cases i <;> cases j <;> decide
  intro i j id isLeft isRight
  exact apart i j (by rw [isLeft]; rfl) (isLeft.trans isRight.symm)

def approval : Attached := ⟨some ⟨⟨"00"⟩, 1, none, .ofSeconds 0⟩, some (.visa (some "1") none)⟩

/-- The other card gets its token first; the reversal is about to be sent at the end. -/
def acts : List (Act Errand) :=
  [.start otherSale, .answer otherSale, .start sale, .answer sale, .answer sale,
    .exchange sale approval (.ok ()), .answer sale, .answer sale] ++
    .start capture :: List.replicate 6 (.answer capture) ++
    .start reversal :: List.replicate 7 (.answer reversal)

def reversing : Stage (requests reversal) :=
  ((Traffic.start requests .empty).play CardPayments.Sample.processor acts).stage reversal

def sentAmount? : Option Amount :=
  match reversing.sends? with
  | some (_, .reverse r) => r.amount
  | _ => none

end Restored.Sample

open Restored.Sample in
theorem reversals_restore_what_was_authorized_later :
    ∃ sent shown amount, reversing.sends? = some (.visa, .reverse sent) ∧
      sent.authorization = some shown ∧ shown.card.pan = some ⟨"4111111111111111"⟩ ∧
      sent.amount = some amount ∧ amount.value.toText = "6.00" := by
  have isSent : reversing.sends?.isSome = true := by decide +kernel
  obtain ⟨⟨scheme, message⟩, sends⟩ := Option.isSome_iff_exists.mp isSent
  obtain ⟨sent, shown, amount, pan, rfl, carries, isAmount, clear, j, a, seen, authorizes, named, _,
    single, given, isScheme, _⟩ := reversals_restore_what_was_authorized
      CardPayments.Sample.processor requests requests_distinct .empty rfl rfl acts .reversal "psp" _
      rfl rfl scheme message sends
  obtain rfl : .sale = j := single .sale rfl
  cases authorizes
  obtain rfl : pan = ⟨"4111111111111111"⟩ := Option.some.inj given.symm
  have six : sentAmount?.map (fun amount => amount.value.toText) = some "6.00" := by
    decide +kernel
  rw [sentAmount?, sends] at six
  change sent.amount.map _ = _ at six
  rw [isAmount] at six
  subst isScheme
  exact ⟨sent, shown, amount, sends, carries, clear, isAmount, Option.some.inj six⟩

end CardPayments
