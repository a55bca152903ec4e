import CardPayments.CommandLine
import CardPayments.Proofs.Replay.References
import CardPayments.Proofs.Trace.Supply

/-! # A replay keeps a book

Each command is answered as the book answers it, and leaves replay and book in step; so a replay has
the outcomes of the book, up to the first overflow. -/
set_option autoImplicit false

namespace CardPayments

namespace Replay

/-- The number of a new card is clear. -/
theorem cardPayment_clear {c : Command} {card : Card} {amount : Amount} {currency : Currency}
    (paid : cardPayment c = .ok (card, amount, currency)) : ∃ pan, card.pan = some pan := by
  obtain ⟨_, _, _, pan, _, _, _, _, _, isNew, _⟩ := cardPayment_eq_ok.mp paid
  exact ⟨pan, by rw [isNew, Card.ofPan]⟩

/-- A replay and its system stand for a book. -/
structure Stands (p : Processor) (first : TraceNumbers) (s : System) (r : Replay) (b : Book) :
    Prop where
  approves : s.Approves p
  traces : s.traces = first.after b.sent
  authorizations : Agrees s.stores.Keeps r.authorizations b.authorizations
  refunds : Agrees s.stores.HoldsRefund r.refunds b.refunds
  within : s.stores.Within r.Issued

/-- A command is answered as in the book, and afterwards the replay stands for the book again. -/
structure Advances (p : Processor) (first : TraceNumbers) (r : Replay)
    (done : Except PaymentError Applied × Replay × System)
    (booked : Except PaymentError Applied × Book) : Prop where
  answer : done.1 = booked.1
  next : done.2.1.nextId ≤ r.nextId + 1
  stands : Stands p first done.2.2 done.2.1 booked.2

variable {p : Processor} {first : TraceNumbers} {s : System} {r : Replay} {b : Book} {c : Command}
  {ceiling : Decimal} {number : ℕ → UInt64}

theorem Stands.issue (stands : Stands p first s r b) :
    Stands p first s { r with nextId := r.nextId + 1 } b :=
  { stands with within := stands.within.mono fun _ issued => issued.next }

/-- A new authorization defines a reference. -/
theorem Stands.define (stands : Stands p first s r b) (room : r.nextId < 2 ^ 128)
    {a : Authorization} (named : a.id = .ofNat r.nextId) {pan : Pan}
    {data : List (Uuid × SchemeData)} {key : ReferenceKey} {entry : Entry}
    (kept : (s.stores.withAuthorization pan a data).Keeps key.1 a.id entry) (sent : ℕ) :
    Stands p first
      { s with stores := s.stores.withAuthorization pan a data, traces := first.after sent }
      { r with
        authorizations := (key, .ofNat r.nextId) :: r.authorizations
        nextId := r.nextId + 1 }
      { b.enter key entry with sent := sent } where
  approves := ⟨stands.approves.network, stands.approves.connected⟩
  traces := rfl
  authorizations := stands.authorizations.define
    (fun _ _ keeps => not_issued_next room (stands.within.of_keeps keeps)) (named ▸ kept)
    fun _ other _ keeps => keeps.stays (s.stores.stays_withAuthorization pan a data other)
  refunds := stands.refunds.mono fun _ _ _ holds => holds.stays (fun _ found => found) rfl
  within := by
    have isIssued : ({ r with
        authorizations := (key, .ofNat r.nextId) :: r.authorizations
        nextId := r.nextId + 1 } : Replay).Issued a.id := by
      rw [named]
      exact issued_next
    exact (stands.within.mono fun _ issued => issued.next).withAuthorization isIssued pan data

theorem authorize_eq {card : Card} {amount : Amount} {currency : Currency} {a : Authorization}
    {answer : Except PaymentError Unit} {t : System}
    (paid : cardPayment c = .ok (card, amount, currency))
    (ran : (p.authorize (.intake (.ofNat r.nextId) c.psp c.psp amount currency card
      (c.exemption.getD .none) default)).run s = ((a, answer), t)) (stored : a.status ≠ .new) :
    Replay.authorize .system p s r c =
      (answer.map fun _ => ⟨a.status.name, a.amount.toText, responseDetail a.response⟩,
        { r with
          authorizations := (c.key, .ofNat r.nextId) :: r.authorizations
          nextId := r.nextId + 1 }, t) := by
  have onSystem : Host.system.run s (p.authorize (.intake (.ofNat r.nextId) c.psp c.psp amount
    currency card (c.exemption.getD .none) default)) = ((a, answer), t) := ran
  have defined : (answer.isOk || a.status != .new) = true := by simp [stored]
  simp only [Replay.authorize, paid, Replay.fresh, onSystem, defined, if_true]
  rfl

theorem Stands.authorize (stands : Stands p first s r b)
    (rules : p.rules = RiskRule.standard ceiling)
    (numbers : ∀ k, (first.after k).next = (.ok (number k), first.after (k + 1)))
    (room : r.nextId < 2 ^ 128) :
    Advances p first r (Replay.authorize .system p s r c) (b.authorize ceiling number c) := by
  cases paid : cardPayment c with
  | error e =>
      rw [Replay.authorize, Book.authorize, paid]
      exact ⟨rfl, Nat.le_succ _, stands⟩
  | ok payment =>
      obtain ⟨card, amount, currency⟩ := payment
      obtain ⟨pan, clear⟩ := cardPayment_clear paid
      let a := Authorization.intake (.ofNat r.nextId) c.psp c.psp amount currency card
        (c.exemption.getD .none) default
      have fresh : ∀ row ∈ s.stores.authorizations.rows, row.id ≠ a.id := by
        intro row member same
        have isIssued := stands.within.authorizations row member
        exact not_issued_next room (same ▸ isIssued : r.Issued a.id)
      have unissued : ¬ r.Issued a.id := not_issued_next room
      have declares : a.exemption = .lowValue ↔ c.exemption = some .lowValue := by
        cases declared : c.exemption <;> simp [a, Authorization.intake, declared]
      by_cases rejected : a.exemption = .lowValue ∧ ceiling.below amount.value = true
      · have declined : c.exemption = some .lowValue ∧ ceiling.below amount.value = true :=
          ⟨declares.mp rejected.1, rejected.2⟩
        let final : Authorization := { a.tokenized s.stores.nextToken with status := .riskDeclined }
        have ran := p.run_authorize_rejected (s := s) (a := a) rules clear fresh rejected
        have kept : (s.stores.withAuthorization pan final s.stores.authorizations.schemeData).Keeps
            c.key.1 final.id .riskDeclined :=
          ⟨final.row, stands.within.row?_withAuthorization (a := final) unissued pan _, rfl, rfl⟩
        rw [authorize_eq paid ran (by simp), Book.authorize, paid]
        simp only [if_pos declined]
        refine ⟨rfl, le_rfl, ?_⟩
        rw [stands.traces]
        exact stands.define room rfl kept b.sent
      · have accepted : ¬ (c.exemption = some .lowValue ∧ ceiling.below amount.value = true) :=
          fun declined => rejected ⟨declares.mpr declined.1, declined.2⟩
        obtain ⟨applied, data, ran⟩ := p.run_authorize_approved (s := s) (a := a) stands.approves
          (stands.traces ▸ numbers b.sent) rules clear fresh rejected
        let final := (a.tokenized s.stores.nextToken).approved applied (number b.sent)
          (first.after (b.sent + 1)).today
        have kept : (s.stores.withAuthorization pan final data).Keeps c.key.1 final.id
            (.held (.ofAmount amount)) :=
          stands.within.holds_withAuthorization (a := final) unissued pan data rfl rfl
        rw [authorize_eq paid ran (by simp [Authorization.approved]), Book.authorize, paid]
        simp only [if_neg accepted]
        exact ⟨rfl, le_rfl, stands.define room rfl kept (b.sent + 1)⟩

/-! ## Captures -/

section

variable {id : Uuid} {amount : Amount}

theorem lookup_ok {references : List (ReferenceKey × Uuid)}
    (found : references.lookup c.key = some id) : lookup references c = .ok id := by
  have isFound : references.lookup (c.psp, c.reference) = some id := found
  rw [lookup, isFound]

theorem lookup_error {references : List (ReferenceKey × Uuid)}
    (missing : references.lookup c.key = none) : lookup references c = .error (Book.unknown c) := by
  have isMissing : references.lookup (c.psp, c.reference) = none := missing
  rw [lookup, isMissing]
  rfl

def captureOf (r : Replay) (c : Command) (id : Uuid) (amount : Amount) : Capture :=
  ⟨.ofNat r.nextId, id, amount, c.isFinal.getD false, .created, default⟩

theorem capture_eq (found : r.authorizations.lookup c.key = some id)
    (stated : amountOf c = .ok amount) :
    Replay.capture .system p s r c =
      ((s.stores.capture p c.psp (captureOf r c id amount)).1.map fun x =>
          ⟨"captured", x.amount.toText, finalDetail x.isFinal⟩,
        { r with nextId := r.nextId + 1 },
        { s with stores := (s.stores.capture p c.psp (captureOf r c id amount)).2 }) := by
  have ran : Host.system.run s (p.capture c.psp (captureOf r c id amount)) = _ :=
    p.run_capture s c.psp (captureOf r c id amount)
  rw [captureOf] at ran ⊢
  simp only [Replay.capture, lookup_ok found, stated, Replay.fresh, ran]

/-- What a capture does to the rows of one authorization, it does to the entry of one reference. -/
theorem Stands.revise (stands : Stands p first s r b)
    (found : r.authorizations.lookup c.key = some id) {stores : Stores} {entry : Entry}
    (kept : stores.Keeps c.psp id entry) (stays : ∀ other, id ≠ other → s.stores.Stays stores other)
    (refunds : stores.refunds = s.stores.refunds)
    (refundCaptures : stores.captures.refundCaptures = s.stores.captures.refundCaptures)
    (within : stores.Within r.Issued) (sent : ℕ) :
    Stands p first { s with stores := stores, traces := first.after sent }
      { r with nextId := r.nextId + 1 } { b.enter c.key entry with sent := sent } where
  approves := ⟨stands.approves.network, stands.approves.connected⟩
  traces := rfl
  authorizations := stands.authorizations.revise found kept
    fun _ other _ differs keeps => keeps.stays (stays other differs)
  refunds := stands.refunds.mono fun _ _ _ holds => holds.stays
    (fun _ stored => refunds ▸ stored)
    (by rw [CaptureStore.ofRefund, refundCaptures, CaptureStore.ofRefund])
  within := within.mono fun _ issued => issued.next

theorem Stands.capture (stands : Stands p first s r b) :
    Advances p first r (Replay.capture .system p s r c) (b.capture c) := by
  cases found : r.authorizations.lookup c.key with
  | none =>
      have unknown := stands.authorizations.missing _ found
      simp only [Replay.capture, Book.capture, lookup_error found, unknown]
      exact ⟨rfl, Nat.le_succ _, stands⟩
  | some id =>
      obtain ⟨entry, entered, (kept : s.stores.Keeps c.psp id entry)⟩ :=
        stands.authorizations.found _ _ found
      cases stated : amountOf c with
      | error e =>
          simp only [Replay.capture, Book.capture, lookup_ok found, entered, stated]
          exact ⟨rfl, Nat.le_succ _, stands⟩
      | ok amount =>
          rw [capture_eq found stated]
          cases entry with
          | riskDeclined =>
              rw [Stores.capture_riskDeclined (c := captureOf r c id amount) p kept]
              simp only [Book.capture, entered, stated]
              exact ⟨rfl, le_rfl, stands.issue⟩
          | held h =>
              let x := captureOf r c id amount
              obtain ⟨a, ran⟩ := kept.capture_eq (c := x) p
              rw [ran]
              simp only [Book.capture, entered, stated]
              cases captured : h.capture amount (c.isFinal.getD false) with
              | error e =>
                  have refused : h.capture x.amount x.isFinal = .error e := captured
                  simp only [refused]
                  exact ⟨rfl, le_rfl, stands.issue⟩
              | ok after =>
                  have accepted : h.capture x.amount x.isFinal = .ok after := captured
                  simp only [accepted]
                  refine ⟨rfl, le_rfl, ?_⟩
                  let taken : Capture := { x with isFinal := after.standing = .closed }
                  have holds : ((s.stores.withCapture taken).announce p a taken).Keeps c.psp id
                      (.held after) := kept.after_capture (c := x) p a rfl accepted
                  rw [stands.traces]
                  exact stands.revise found holds
                    (fun other differs => s.stores.stays_withCapture p a taken differs) rfl rfl
                    (stands.within.withCapture (stands.within.of_keeps kept) p a) b.sent

theorem reverse_eq {x : Reversal} {answer : Except PaymentError Unit} {t : System}
    (found : r.authorizations.lookup c.key = some id)
    (ran : (p.reverse c.psp (.ofId (.ofNat r.nextId) id default)).run s = ((x, answer), t)) :
    Replay.reverse .system p s r c =
      (answer.map fun _ =>
          ⟨x.status.name, (x.amount.map Amount.toText).getD "", responseDetail x.response⟩,
        { r with nextId := r.nextId + 1 }, t) := by
  have onSystem : Host.system.run s (p.reverse c.psp (.ofId (.ofNat r.nextId) id default)) =
    ((x, answer), t) := ran
  simp only [Replay.reverse, lookup_ok found, Replay.fresh, onSystem]

theorem Stands.reverse (stands : Stands p first s r b)
    (numbers : ∀ k, (first.after k).next = (.ok (number k), first.after (k + 1))) :
    Advances p first r (Replay.reverse .system p s r c) (b.reverse number c) := by
  cases found : r.authorizations.lookup c.key with
  | none =>
      have unknown := stands.authorizations.missing _ found
      simp only [Replay.reverse, Book.reverse, lookup_error found, unknown]
      exact ⟨rfl, Nat.le_succ _, stands⟩
  | some id =>
      obtain ⟨entry, entered, (kept : s.stores.Keeps c.psp id entry)⟩ :=
        stands.authorizations.found _ _ found
      cases entry with
      | riskDeclined =>
          rw [reverse_eq found (Stores.reverse_riskDeclined kept (.ofNat r.nextId) default)]
          simp only [Book.reverse, entered]
          exact ⟨rfl, le_rfl, stands.issue⟩
      | held h =>
          have taken := stands.traces ▸ numbers b.sent
          have ran := kept.reverse_eq stands.approves taken (.ofNat r.nextId) default
          simp only [Book.reverse, entered]
          cases reverses : h.reverse with
          | error e =>
              simp only [reverses] at ran
              obtain ⟨x, ran⟩ := ran
              rw [reverse_eq found ran]
              exact ⟨rfl, le_rfl, stands.issue⟩
          | ok reversed =>
              obtain ⟨left, after⟩ := reversed
              simp only [reverses] at ran
              obtain ⟨x, amount, account, succeeded, ofAmount, isLeft, response, ran⟩ := ran
              rw [reverse_eq found ran, succeeded, ofAmount, response, ← isLeft]
              have holds : (s.stores.withReversal x).Keeps c.psp id (.held after) :=
                kept.after_reversal account succeeded reverses
              exact ⟨rfl, le_rfl, stands.revise found holds
                (fun other differs => s.stores.stays_withReversal x (account ▸ differs)) rfl rfl
                (stands.within.withReversal (account ▸ stands.within.of_keeps kept)) (b.sent + 1)⟩

end

/-! ## Refunds -/

theorem Stands.defineRefund (stands : Stands p first s r b) (room : r.nextId < 2 ^ 128)
    {x : Refund} (named : x.id = .ofNat r.nextId) {pan : Pan} {data : List (Uuid × SchemeData)}
    {key : ReferenceKey} {h : Holding}
    (kept : (s.stores.withRefund pan x data).HoldsRefund key.1 x.id h) (sent : ℕ) :
    Stands p first
      { s with stores := s.stores.withRefund pan x data, traces := first.after sent }
      { r with refunds := (key, .ofNat r.nextId) :: r.refunds, nextId := r.nextId + 1 }
      { b.enterRefund key h with sent := sent } where
  approves := ⟨stands.approves.network, stands.approves.connected⟩
  traces := rfl
  authorizations := stands.authorizations.mono
    fun _ other _ keeps => keeps.stays (s.stores.stays_withRefund pan x data other)
  refunds := stands.refunds.define
    (fun _ _ holds => not_issued_next room (stands.within.of_holdsRefund holds)) (named ▸ kept)
    fun _ _ _ holds => holds.stays (fun _ found => s.stores.row?_withRefund pan x data found) rfl
  within := by
    have isIssued : ({ r with
        refunds := (key, .ofNat r.nextId) :: r.refunds
        nextId := r.nextId + 1 } : Replay).Issued x.id := by
      rw [named]
      exact issued_next
    exact (stands.within.mono fun _ issued => issued.next).withRefund isIssued pan data

theorem refund_eq {card : Card} {amount : Amount} {currency : Currency} {x : Refund} {t : System}
    (paid : cardPayment c = .ok (card, amount, currency))
    (ran : (p.refund (.intake (.ofNat r.nextId) c.psp c.psp amount currency card default)).run s =
      ((x, .ok ()), t)) :
    Replay.refund .system p s r c =
      (.ok ⟨x.status.name, x.amount.toText, responseDetail x.response⟩,
        { r with refunds := (c.key, .ofNat r.nextId) :: r.refunds, nextId := r.nextId + 1 },
        t) := by
  have onSystem : Host.system.run s (p.refund (.intake (.ofNat r.nextId) c.psp c.psp amount currency
    card default)) = ((x, .ok ()), t) := ran
  simp only [Replay.refund, paid, Replay.fresh, onSystem]
  rfl

theorem Stands.refund (stands : Stands p first s r b)
    (numbers : ∀ k, (first.after k).next = (.ok (number k), first.after (k + 1)))
    (room : r.nextId < 2 ^ 128) :
    Advances p first r (Replay.refund .system p s r c) (b.refund number c) := by
  cases paid : cardPayment c with
  | error e =>
      rw [Replay.refund, Book.refund, paid]
      exact ⟨rfl, Nat.le_succ _, stands⟩
  | ok payment =>
      obtain ⟨card, amount, currency⟩ := payment
      obtain ⟨pan, clear⟩ := cardPayment_clear paid
      let x := Refund.intake (.ofNat r.nextId) c.psp c.psp amount currency card default
      have fresh : ∀ row ∈ s.stores.refunds.rows, row.id ≠ x.id := by
        intro row member same
        have isIssued := stands.within.refunds row member
        exact not_issued_next room (same ▸ isIssued : r.Issued x.id)
      obtain ⟨data, ran⟩ := p.run_refund (s := s) (r := x) stands.approves
        (stands.traces ▸ numbers b.sent) clear fresh
      let final := (x.tokenized s.stores.nextToken).approved (number b.sent)
        (first.after (b.sent + 1)).today
      have kept : (s.stores.withRefund pan final data).HoldsRefund c.key.1 final.id
          (.ofAmount amount) :=
        stands.within.holds_withRefund (r := final) (not_issued_next room) pan data rfl
      rw [refund_eq paid ran, Book.refund, paid]
      exact ⟨rfl, le_rfl, stands.defineRefund room rfl kept (b.sent + 1)⟩

section

variable {id : Uuid} {amount : Amount}

def refundCaptureOf (r : Replay) (c : Command) (id : Uuid) (amount : Amount) : RefundCapture :=
  ⟨.ofNat r.nextId, id, amount, c.isFinal.getD false, .created, default⟩

theorem captureRefund_eq (found : r.refunds.lookup c.key = some id)
    (stated : amountOf c = .ok amount) :
    Replay.captureRefund .system p s r c =
      ((s.stores.captureRefund p c.psp (refundCaptureOf r c id amount)).1.map fun x =>
          ⟨"captured", x.amount.toText, finalDetail x.isFinal⟩,
        { r with nextId := r.nextId + 1 },
        { s with
          stores := (s.stores.captureRefund p c.psp (refundCaptureOf r c id amount)).2 }) := by
  have ran : Host.system.run s (p.captureRefund c.psp (refundCaptureOf r c id amount)) = _ :=
    p.run_captureRefund s (refundCaptureOf r c id amount) c.psp
  rw [refundCaptureOf] at ran ⊢
  simp only [Replay.captureRefund, lookup_ok found, stated, Replay.fresh, ran]

theorem Stands.captureRefund (stands : Stands p first s r b) :
    Advances p first r (Replay.captureRefund .system p s r c) (b.captureRefund c) := by
  cases found : r.refunds.lookup c.key with
  | none =>
      have unknown := stands.refunds.missing _ found
      simp only [Replay.captureRefund, Book.captureRefund, lookup_error found, unknown]
      exact ⟨rfl, Nat.le_succ _, stands⟩
  | some id =>
      obtain ⟨h, entered, (kept : s.stores.HoldsRefund c.psp id h)⟩ :=
        stands.refunds.found _ _ found
      cases stated : amountOf c with
      | error e =>
          simp only [Replay.captureRefund, Book.captureRefund, lookup_ok found, entered, stated]
          exact ⟨rfl, Nat.le_succ _, stands⟩
      | ok amount =>
          let x := refundCaptureOf r c id amount
          obtain ⟨y, ran⟩ := kept.capture_eq (c := x) p
          rw [captureRefund_eq found stated, ran]
          simp only [Book.captureRefund, entered, stated]
          cases captured : h.capture amount (c.isFinal.getD false) with
          | error e =>
              have refused : h.capture x.amount x.isFinal = .error e := captured
              simp only [refused]
              exact ⟨rfl, le_rfl, stands.issue⟩
          | ok after =>
              have accepted : h.capture x.amount x.isFinal = .ok after := captured
              simp only [accepted]
              let taken : RefundCapture := { x with isFinal := after.standing = .closed }
              have holds : ((s.stores.withRefundCapture taken).announceRefund p y taken).HoldsRefund
                  c.psp id after := kept.after_capture (c := x) p y rfl accepted
              refine ⟨rfl, le_rfl, ⟨stands.approves.network, stands.approves.connected⟩,
                stands.traces, stands.authorizations.mono fun _ _ _ keeps => keeps.stays ?_,
                stands.refunds.revise found holds fun _ other _ differs held =>
                  held.stays_withRefundCapture p y (c := taken) differs,
                (stands.within.withRefundCapture (stands.within.of_holdsRefund kept) p y).mono
                  fun _ issued => issued.next⟩
              exact ⟨fun _ stored => stored, fun _ _ opens => opens, rfl, rfl⟩

end

theorem Stands.echo (stands : Stands p first s r b)
    (numbers : ∀ k, (first.after k).next = (.ok (number k), first.after (k + 1))) :
    Advances p first r (Replay.echo .system p s r c) (b.echo c) := by
  rw [Replay.echo, Book.echo]
  cases named : (required c.scheme "scheme").bind Scheme.ofText with
  | error e => exact ⟨rfl, Nat.le_succ _, stands⟩
  | ok scheme =>
      have ran : Host.system.run s (p.echo scheme) = _ :=
        p.run_echo stands.approves (stands.traces ▸ numbers b.sent) scheme
      simp only [ran]
      exact ⟨rfl, Nat.le_succ _, ⟨stands.approves.network, stands.approves.connected⟩, rfl,
        stands.authorizations, stands.refunds, stands.within⟩

/-! ## Runs -/

theorem Stands.apply (stands : Stands p first s r b) (rules : p.rules = RiskRule.standard ceiling)
    (numbers : ∀ k, (first.after k).next = (.ok (number k), first.after (k + 1)))
    (room : r.nextId < 2 ^ 128) :
    Advances p first r (Replay.apply .system p s r c) (b.apply ceiling number c) := by
  rw [Replay.apply, Book.apply]
  cases c.kind with
  | authorize => exact stands.authorize rules numbers room
  | capture => exact stands.capture
  | reverse => exact stands.reverse numbers
  | refund => exact stands.refund numbers room
  | captureRefund => exact stands.captureRefund
  | echo => exact stands.echo numbers

/-- A replay has the outcomes of the book, stops where the book stops, and took one trace number for
each message. -/
theorem Stands.applyAll (stands : Stands p first s r b)
    (rules : p.rules = RiskRule.standard ceiling)
    (numbers : ∀ k, (first.after k).next = (.ok (number k), first.after (k + 1)))
    (commands : List (Except ReadError Command)) (room : r.nextId + commands.length ≤ 2 ^ 128) :
    (Replay.applyAll .system p s r commands).rows = (b.applyAll ceiling number commands).rows ∧
      (Replay.applyAll .system p s r commands).overflow =
        (b.applyAll ceiling number commands).overflow ∧
      (Replay.applyAll .system p s r commands).state.traces =
        first.after (b.applyAll ceiling number commands).state.sent := by
  induction commands generalizing s r b with
  | nil => exact ⟨rfl, rfl, stands.traces⟩
  | cons command rest ih =>
      rw [List.length_cons] at room
      cases command with
      | error e =>
          obtain ⟨rows, stopped, traces⟩ := ih stands (by omega)
          exact ⟨congrArg (Except.error e :: ·) rows, stopped, traces⟩
      | ok c =>
          obtain ⟨answer, next, after⟩ := stands.apply (c := c) rules numbers (by omega)
          rw [Replay.applyAll, Book.applyAll]
          generalize Replay.apply .system p s r c = done at answer next after ⊢
          generalize b.apply ceiling number c = booked at answer after ⊢
          obtain ⟨done, r', s'⟩ := done
          obtain ⟨_, b'⟩ := booked
          cases answer
          have room' : r'.nextId + rest.length ≤ 2 ^ 128 := by
            have isNext : r'.nextId ≤ r.nextId + 1 := next
            omega
          obtain ⟨rows, stopped, traces⟩ := ih after room'
          cases done with
          | ok applied => exact ⟨congrArg (Except.ok _ :: ·) rows, stopped, traces⟩
          | error e =>
              dsimp only
              cases e.overflow? with
              | some operation => exact ⟨rfl, rfl, after.traces⟩
              | none => exact ⟨congrArg (Except.ok _ :: ·) rows, stopped, traces⟩

end Replay

namespace Sample

def command (kind : CommandKind) (reference : String) (amount : Option Decimal)
    (exemption : Exemption) : Except ReadError Command :=
  .ok ⟨kind, "psp", reference, some "visa", some "4111111111111111", amount, some "EUR", none,
    exemption⟩

/-- An authorization that is captured in part and reversed, and one that the risk rules reject. -/
def commands : List (Except ReadError Command) :=
  let ten : Decimal := { Decimal.zero with coefficient := 10, fits := by decide }
  let hundred : Decimal := { Decimal.zero with coefficient := 100, fits := by decide }
  [command .authorize "a" (some hundred) .none,
    command .capture "a" (some .thirty) .none,
    command .reverse "a" none .none,
    command .capture "a" (some ten) .none,
    command .authorize "b" (some hundred) .lowValue,
    command .capture "b" (some ten) .none]

end Sample

end CardPayments
