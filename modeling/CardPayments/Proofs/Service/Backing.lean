import CardPayments.Proofs.Intake.Dossier
import CardPayments.Proofs.Service.Basic
import CardPayments.Proofs.Settlement.Limit

/-! # What stands behind a capture

When requests are served one after another, every stored capture belongs to a stored authorization
that was not declined, and every stored refund capture to such a refund.  Not declined is not
approved: a transaction whose network failed, or answered without a response, can be captured. -/
set_option autoImplicit false

namespace CardPayments

open Intake

def CaptureStore.captured (s : CaptureStore) : Kind → List Uuid
  | .authorization => s.captures.map Capture.authorizationId
  | .refund => s.refundCaptures.map RefundCapture.refundId

def Call.captures? : Call → Option Key
  | .createCapture c _ => some ⟨.authorization, c.authorizationId⟩
  | .createRefundCapture c _ => some ⟨.refund, c.refundId⟩
  | _ => none

def Status.Undeclined (status : Status) : Prop :=
  status = .approved ∨ status = .new ∨ status = .failed

structure Backed (s : Stores) : Prop where
  single : ∀ key, (s.dossier key).rows.length ≤ 1
  known : ∀ key : Key, key.id ∈ s.captures.captured key.kind →
    ∃ x ∈ (s.dossier key).rows, x.status.Undeclined
  refunds : ∀ key : Key, key.kind = .refund →
    ∀ x ∈ (s.dossier key).rows, x.status ≠ .riskDeclined

/-! ## One call -/

namespace CaptureStore

variable {s t : CaptureStore}

theorem create_captured {c : Capture} {seen : CaptureSummary} (done : s.create c seen = .ok t)
    {key : Key} (member : key.id ∈ t.captured key.kind) :
    key.id ∈ s.captured key.kind ∨ key = ⟨.authorization, c.authorizationId⟩ := by
  rw [create] at done
  split at done
  · cases done
  · split at done
    · cases done
      obtain ⟨kind, id⟩ := key
      cases kind with
      | refund => exact Or.inl member
      | authorization =>
          simp only [captured, List.map_append, List.mem_append, List.map_singleton,
            List.mem_singleton] at member
          rcases member with before | rfl
          · exact Or.inl before
          · exact Or.inr rfl
    · cases done

theorem createForRefund_captured {c : RefundCapture} {seen : CaptureSummary}
    (done : s.createForRefund c seen = .ok t) {key : Key}
    (member : key.id ∈ t.captured key.kind) :
    key.id ∈ s.captured key.kind ∨ key = ⟨.refund, c.refundId⟩ := by
  rw [createForRefund] at done
  split at done
  · cases done
  · split at done
    · cases done
      obtain ⟨kind, id⟩ := key
      cases kind with
      | authorization => exact Or.inl member
      | refund =>
          simp only [captured, List.map_append, List.mem_append, List.map_singleton,
            List.mem_singleton] at member
          rcases member with before | rfl
          · exact Or.inl before
          · exact Or.inr rfl
    · cases done

theorem update_captured {c : Capture} (done : s.update c = .ok t) : t.captured = s.captured := by
  rw [update] at done
  split at done
  · next captures changed =>
      cases done
      obtain ⟨front, row, back, split, splitAfter, _⟩ := Table.changeFirst_split _ _ _ _ changed
      funext kind
      cases kind with
      | authorization => simp [captured, split, splitAfter]
      | refund => rfl
  · cases done

end CaptureStore

namespace Stores

theorem changed_captured {s : Stores} {result : Except PaymentError CaptureStore} {key : Key}
    {P : Prop} (captured : ∀ store, result = .ok store → key.id ∈ store.captured key.kind →
      key.id ∈ s.captures.captured key.kind ∨ P)
    (member : key.id ∈ (s.changed (fun store => { s with captures := store })
      result).2.captures.captured key.kind) :
    key.id ∈ s.captures.captured key.kind ∨ P := by
  cases result with
  | ok store => exact captured store rfl member
  | error e => exact Or.inl member

theorem answer_captured (s : Stores) (call : Call) (key : Key)
    (member : key.id ∈ (s.answer call).2.captures.captured key.kind) :
    key.id ∈ s.captures.captured key.kind ∨ call.captures? = some key := by
  by_cases writes : call.WritesCaptures
  · cases call with
    | createCapture c seen =>
        refine changed_captured (fun store done member => ?_) member
        rcases CaptureStore.create_captured done member with before | rfl
        · exact Or.inl before
        · exact Or.inr rfl
    | createRefundCapture c seen =>
        refine changed_captured (fun store done member => ?_) member
        rcases CaptureStore.createForRefund_captured done member with before | rfl
        · exact Or.inl before
        · exact Or.inr rfl
    | updateCapture c =>
        refine changed_captured (fun store done member => ?_) member
        rw [CaptureStore.update_captured done] at member
        exact Or.inl member
    | _ => exact writes.elim
  · rw [s.answer_captures call writes] at member
    exact Or.inl member

end Stores

theorem Backed.empty : Backed .empty where
  single key := by
    obtain ⟨kind, id⟩ := key
    cases kind <;> exact Nat.zero_le 1
  known key member := by
    obtain ⟨kind, id⟩ := key
    cases kind <;> cases member
  refunds key _ x stored := by
    obtain ⟨kind, id⟩ := key
    cases kind <;> cases stored

theorem Call.captures?_of_files {call : Call} {filed : Key × Filing}
    (files : call.filing? = some filed) : call.captures? = none := by
  cases call <;> first | rfl | cases files

/-- Rows are opened as new, and settled while there are no captures. -/
def Intake.Filing.Fits (s : Stores) (key : Key) : Filing → Prop
  | .opens x => x.status = .new
  | .records .. => True
  | .settles status _ =>
      key.id ∉ s.captures.captured key.kind ∧ (key.kind = .refund → status ≠ .riskDeclined)

/-- What is filed and fits leaves the dossier as the captures need it. -/
theorem Backed.filed {s : Stores} (backed : Backed s) {worked : Key} {filing : Filing}
    {after : Dossier} (fits : filing.Fits s worked)
    (filed : Dossier.Filed filing (s.dossier worked) after) :
    after.rows.length ≤ 1 ∧
      (worked.id ∈ s.captures.captured worked.kind →
        ∃ x ∈ after.rows, x.status.Undeclined) ∧
      (worked.kind = .refund → ∀ x ∈ after.rows, x.status ≠ .riskDeclined) := by
  have single := backed.single worked
  have known := backed.known worked
  have refunds := backed.refunds worked
  generalize s.dossier worked = before at filed single known refunds
  cases filed with
  | opens x _ unknown =>
      refine ⟨Nat.le_refl 1, fun member => ?_, fun _ y stored => ?_⟩
      · obtain ⟨y, stored, _⟩ := known member
        rw [unknown] at stored
        cases stored
      · have fresh : x.status = .new := fits
        obtain rfl := List.mem_singleton.mp stored
        rw [fresh]
        decide
  | records data _ => exact ⟨single, known, refunds⟩
  | settles status response _ rows changed =>
      obtain ⟨uncaptured, refund⟩ := fits
      refine ⟨changed.length_eq ▸ single, fun member => absurd member uncaptured,
        fun isRefund y stored => ?_⟩
      rcases changed.mem stored with old | ⟨row, _, rfl⟩
      · exact refunds isRefund y old
      · exact refund isRefund

/-- A call keeps what stands behind the captures if its filing fits and it captures only what was
not declined. -/
theorem Backed.answer {s : Stores} (backed : Backed s) (call : Call)
    (fits : ∀ key filing, call.filing? = some (key, filing) → filing.Fits s key)
    (captures : ∀ key, call.captures? = some key →
      ∃ x ∈ (s.dossier key).rows, x.status.Undeclined) :
    Backed (s.answer call).2 := by
  have captured := s.answer_captured call
  cases files : call.filing? with
  | none =>
      have same := s.answer_dossier files
      constructor
      · exact fun key => same key ▸ backed.single key
      · exact fun key member =>
          same key ▸ (captured key member).elim (backed.known key) (captures key)
      · exact fun key isRefund => same key ▸ backed.refunds key isRefund
  | some filed =>
      obtain ⟨worked, filing⟩ := filed
      rcases s.answer_filing files with ⟨e, failed⟩ | ⟨value, t, done, filed, apart⟩
      · rw [failed]
        exact backed
      -- a call that files something captures nothing
      rw [done, Call.captures?_of_files files] at captured
      rw [done]
      obtain ⟨single, known, refunds⟩ := backed.filed (fits worked filing files) filed
      refine ⟨fun key => ?_, fun key member => ?_, fun key isRefund => ?_⟩ <;>
        by_cases same : key = worked
      · exact same ▸ single
      · exact apart key same ▸ backed.single key
      · subst same
        exact known ((captured key member).resolve_right nofun)
      · exact apart key same ▸ backed.known key ((captured key member).resolve_right nofun)
      · subst same
        exact refunds isRefund
      · exact apart key same ▸ backed.refunds key isRefund

/-! ## One request -/

/-- What a request records of its transaction fits while there are no captures. -/
theorem Request.Concludes.files {q : Request} {call : Call} (concludes : q.Concludes call) :
    ∃ key filing, q.key? = some key ∧ call.filing? = some (key, filing) ∧
      ∀ s : Stores, key.id ∉ s.captures.captured key.kind → filing.Fits s key := by
  cases q with
  | authorize a =>
      cases call with
      | createAuthorizationData scheme b =>
          exact ⟨_, .records scheme b.schemeData, rfl, by rw [← concludes]; rfl,
            fun _ _ => trivial⟩
      | updateAuthorization b =>
          exact ⟨_, .settles b.status b.response, rfl, by rw [← concludes.1]; rfl,
            fun _ uncaptured => ⟨uncaptured, nofun⟩⟩
      | _ => exact concludes.elim
  | refund r =>
      cases call with
      | createRefundData scheme x =>
          exact ⟨_, .records scheme x.schemeData, rfl, by rw [← concludes]; rfl,
            fun _ _ => trivial⟩
      | updateRefund x =>
          refine ⟨_, .settles x.status x.response, rfl, by rw [← concludes.1]; rfl,
            fun _ uncaptured => ⟨uncaptured, fun _ => ?_⟩⟩
          rw [concludes.2]
          cases x.response with
          | none => exact nofun
          | some response =>
              simp only [Status.ofResponse, ResponseCode.status]
              split <;> exact nofun
      | _ => exact concludes.elim
  | _ => cases call <;> exact concludes.elim

/-! ## What a capture reads -/

namespace Stores

theorem dossier_authorization (s : Stores) (id : Uuid) :
    (s.dossier ⟨.authorization, id⟩).rows.head? =
      (s.authorizations.row? id).map Authorization.transaction := by
  simp only [dossier, tables, Tables.dossier, TransactionStore.tables, List.head?_filter,
    List.find?_map]
  rfl

theorem dossier_refund (s : Stores) (id : Uuid) :
    (s.dossier ⟨.refund, id⟩).rows.head? = (s.refunds.row? id).map Refund.transaction := by
  simp only [dossier, tables, Tables.dossier, TransactionStore.tables, List.head?_filter,
    List.find?_map]
  rfl

theorem read_authorization (s : Stores) {psp : String} {id : Uuid} {a : Authorization}
    (found : s.authorizations.getFull psp id = .ok a)
    (undeclined : ¬ (a.status = .declined ∨ a.status = .riskDeclined)) :
    ∃ x ∈ (s.dossier ⟨.authorization, id⟩).rows, x.status.Undeclined := by
  obtain ⟨row, stored, _, _, rfl⟩ := TransactionStore.getFull_shows found
  have first := s.dossier_authorization id
  rw [stored] at first
  have shows : ¬ (row.status = .declined ∨ row.status = .riskDeclined) := undeclined
  refine ⟨row.transaction, List.mem_of_head? first, ?_⟩
  change row.status.Undeclined
  rw [Status.Undeclined]
  cases isStatus : row.status <;> simp_all

theorem read_refund (s : Stores) (backed : Backed s) {psp : String} {id : Uuid} {r : Refund}
    (found : s.refunds.getFull psp id = .ok r) (undeclined : ¬ r.status = .declined) :
    ∃ x ∈ (s.dossier ⟨.refund, id⟩).rows, x.status.Undeclined := by
  obtain ⟨row, stored, _, _, rfl⟩ := TransactionStore.getFull_shows found
  have first := s.dossier_refund id
  rw [stored] at first
  have member := List.mem_of_head? first
  have unrejected : row.status ≠ .riskDeclined := backed.refunds ⟨.refund, id⟩ rfl _ member
  have shows : row.status ≠ .declined := undeclined
  refine ⟨row.transaction, member, ?_⟩
  change row.status.Undeclined
  rw [Status.Undeclined]
  cases isStatus : row.status <;> simp_all

end Stores

section

variable {p : Processor} {fallible : Call → Bool} {s : Stores}

/-- A call that files nothing and captures nothing. -/
theorem Backed.quiet (backed : Backed s) {call : Call} (files : call.filing? = none)
    (captures : call.captures? = none) : Backed (s.answer call).2 := by
  refine backed.answer call (fun key filing filed => ?_) fun key captured => ?_
  · rw [files] at filed
    cases filed
  · rw [captures] at captured
    cases captured

theorem Backed.touched (backed : Backed s) {call : Call} (after : Backed (s.answer call).2)
    (effect : Bool) : Backed (s.touched call effect) := by
  cases effect with
  | true => exact after
  | false => exact backed

/-- A row that was just opened has no captures. -/
theorem Backed.uncaptured (backed : Backed s) {call : Call} {key : Key} {x : Transaction}
    (files : call.filing? = some (key, .opens x)) {value : call.Value}
    (granted : (s.answer call).1 = .ok value) :
    key.id ∉ (s.answer call).2.captures.captured key.kind := by
  intro member
  rcases s.answer_captured call key member with before | captures
  · rcases s.answer_filing files with ⟨e, failed⟩ | ⟨_, t, done, filed, _⟩
    · rw [failed] at granted
      cases granted
    · obtain ⟨y, stored, _⟩ := backed.known key before
      generalize s.dossier key = dossier at filed stored
      generalize t.dossier key = after at filed
      cases filed with
      | opens _ _ unknown =>
          rw [unknown] at stored
          cases stored
  · rw [Call.captures?_of_files files] at captures
    cases captures

/-- What a request records of a transaction without captures keeps what stands behind captures. -/
theorem concludes_backed {q : Request} {key : Key} {α σ : Type} {flow : Flow σ α}
    {M : Message → Prop} (only : flow.Only q.Concludes M) (own : q.key? = some key)
    (backed : Backed s) (uncaptured : key.id ∉ s.captures.captured key.kind) :
    flow.Assures fallible s fun ending => Backed ending.stores := by
  refine (only.assures (fun t => Backed t ∧ key.id ∉ t.captures.captured key.kind)
    (fun t call concludes held => ?_) ⟨backed, uncaptured⟩).mono fun ending held => held.1.1
  obtain ⟨backed, uncaptured⟩ := held
  obtain ⟨ownKey, filing, isOwn, files, fits⟩ := concludes.files
  obtain rfl : ownKey = key := Option.some.inj (isOwn.symm.trans own)
  have quiet := Call.captures?_of_files files
  refine ⟨backed.answer call (fun other filed same => ?_) fun other captures => ?_,
    fun member => ?_⟩
  · obtain ⟨rfl, rfl⟩ := Prod.mk.inj (Option.some.inj (files.symm.trans same))
    exact fits t uncaptured
  · rw [quiet] at captures
    cases captures
  · rcases t.answer_captured call ownKey member with before | captures
    · exact uncaptured before
    · rw [quiet] at captures
      cases captures

/-- A row that is opened as new keeps what stands behind captures. -/
theorem Backed.opened (backed : Backed s) {call : Call} {key : Key} {x : Transaction}
    (files : call.filing? = some (key, .opens x)) (fresh : x.status = .new) :
    Backed (s.answer call).2 := by
  refine backed.answer call (fun other filed same => ?_) fun other captures => ?_
  · obtain ⟨rfl, rfl⟩ := Prod.mk.inj (Option.some.inj (files.symm.trans same))
    exact fresh
  · rw [Call.captures?_of_files files] at captures
    cases captures

theorem require_backed {σ α : Type} {held : σ} {step : String} {call : Call}
    {next : call.Value → Flow σ α} (before : Backed s) (after : Backed (s.answer call).2)
    (granted : ∀ value, (s.answer call).1 = .ok value →
      (next value).Assures fallible (s.answer call).2 fun ending => Backed ending.stores) :
    (Flow.require held step call next).Assures fallible s fun ending => Backed ending.stores :=
  Flow.assures_require (fun effect => before.touched after effect)
    (fun _ _ effect => before.touched after effect) (fun _ _ => after) granted

theorem authorize_backed (a : Authorization) (backed : Backed s) :
    (p.authorize a).Assures fallible s fun ending => Backed ending.stores := by
  have tokenized : Backed (s.answer (.tokenize a.merchant a.card)).2 := backed.quiet rfl rfl
  refine require_backed backed tokenized fun token _ => ?_
  refine require_backed tokenized (tokenized.opened rfl rfl) fun _ granted => ?_
  exact concludes_backed (assessAuthorization_only p rfl) rfl (tokenized.opened rfl rfl)
    (tokenized.uncaptured rfl granted)

theorem refund_backed (r : Refund) (backed : Backed s) :
    (p.refund r).Assures fallible s fun ending => Backed ending.stores := by
  have tokenized : Backed (s.answer (.tokenize r.merchant r.card)).2 := backed.quiet rfl rfl
  refine require_backed backed tokenized fun token _ => ?_
  refine require_backed tokenized (tokenized.opened rfl rfl) fun _ granted => ?_
  exact concludes_backed (sendRefund_only p rfl) rfl (tokenized.opened rfl rfl)
    (tokenized.uncaptured rfl granted)

theorem reverse_backed (psp : String) (r : Reversal) (backed : Backed s) :
    (p.reverse psp r).Assures fallible s fun ending => Backed ending.stores := by
  refine ((reverse_only p psp r).assures Backed (fun t call asks backed => ?_) backed).mono
    fun ending held => held.1
  rcases asks with reads | writes
  · rw [t.answer_read call reads.isRead]
    exact backed
  · cases call <;> first | exact backed.quiet rfl rfl | exact writes.elim

/-- The calls of an attempt to capture what was not declined keep what stands behind captures. -/
theorem attempts_backed {q : Request} {key : Key} {α σ : Type} {flow : Flow σ α}
    {M : Message → Prop} (only : flow.Only q.Asks M)
    (writes : ∀ call, q.Writes call → call.filing? = none ∧
      ∀ other, call.captures? = some other → other = key)
    (backed : Backed s) (known : ∃ x ∈ (s.dossier key).rows, x.status.Undeclined) :
    flow.Assures fallible s fun ending => Backed ending.stores := by
  refine (only.assures (fun t => Backed t ∧ ∃ x ∈ (t.dossier key).rows, x.status.Undeclined)
    (fun t call asks held => ?_) ⟨backed, known⟩).mono fun ending held => held.1.1
  rcases asks with reads | writing
  · rwa [t.answer_read call reads.isRead]
  · obtain ⟨backed, known⟩ := held
    obtain ⟨files, captures⟩ := writes call writing
    refine ⟨backed.answer call (fun other filing filed => ?_) fun other captured => ?_, ?_⟩
    · rw [files] at filed
      cases filed
    · exact captures other captured ▸ known
    · rwa [t.answer_dossier files]

theorem capture_backed (psp : String) (c : Capture) (backed : Backed s) :
    (p.capture psp c).Assures fallible s fun ending => Backed ending.stores := by
  refine require_backed backed backed fun a found => ?_
  split
  · exact Flow.assures_finish backed
  · next undeclined =>
      refine attempts_backed (attemptsCapture_only p psp a c _) (fun call writes => ?_) backed
        (s.read_authorization found fun status => undeclined status)
      cases call with
      | createCapture d seen =>
          have own : d.authorizationId = c.authorizationId := congrArg (·.authorizationId) writes
          exact ⟨rfl, fun other captured => own ▸ (Option.some.inj captured).symm⟩
      | updateCapture d => exact ⟨rfl, nofun⟩
      | publish topic payload => exact ⟨rfl, nofun⟩
      | _ => exact writes.elim

theorem captureRefund_backed (psp : String) (c : RefundCapture) (backed : Backed s) :
    (p.captureRefund psp c).Assures fallible s fun ending => Backed ending.stores := by
  refine require_backed backed backed fun r found => ?_
  split
  · exact Flow.assures_finish backed
  · next undeclined =>
      -- that a refund was not rejected by a risk rule is known of all refunds
      refine attempts_backed (attemptsRefundCapture_only p psp r c _) (fun call writes => ?_)
        backed (s.read_refund backed found undeclined)
      cases call with
      | createRefundCapture d seen =>
          have own : d.refundId = c.refundId := congrArg (·.refundId) writes
          exact ⟨rfl, fun other captured => own ▸ (Option.some.inj captured).symm⟩
      | publish topic payload => exact ⟨rfl, nofun⟩
      | _ => exact writes.elim

theorem Request.backed (q : Request) (backed : Backed s) :
    (q.flow p).Assures fallible s fun ending => Backed ending.stores := by
  cases q with
  | authorize a => exact authorize_backed a backed
  | refund r => exact refund_backed r backed
  | capture psp c => exact capture_backed psp c backed
  | captureRefund psp c => exact captureRefund_backed psp c backed
  | reverse psp r => exact reverse_backed psp r backed

end

/-! ## Any requests -/

/-- Whatever requests were served one after another, and whatever failed meanwhile: a stored capture
belongs to a stored authorization that was approved, or that its network did not decide on. -/
theorem captures_are_backed (p : Processor) (fallible : Call → Bool) (visits : List Visit)
    (t : Stores) (sent : List Message)
    (served : Visit.all fallible p .empty visits = some (t, sent)) :
    (∀ c ∈ t.captures.captures, ∃ a, t.authorizations.row? c.authorizationId = some a ∧
      (a.status = .approved ∨ a.status = .new ∨ a.status = .failed)) ∧
    ∀ c ∈ t.captures.refundCaptures, ∃ r, t.refunds.row? c.refundId = some r ∧
      (r.status = .approved ∨ r.status = .new ∨ r.status = .failed) := by
  have backed : Backed t :=
    Visit.all_invariant Backed (fun q _ => q.backed) .empty served
  -- the row of a captured transaction is the only one of its id, so it is the one that is found
  have found (key : Key) (captured : key.id ∈ t.captures.captured key.kind) :
      ∃ x, (t.dossier key).rows.head? = some x ∧ x.status.Undeclined := by
    obtain ⟨x, member, undeclined⟩ := backed.known key captured
    obtain ⟨y, rows⟩ := List.length_eq_one_iff.mp
      (Nat.le_antisymm (backed.single key) (List.length_pos_of_mem member))
    rw [rows] at member ⊢
    exact ⟨x, congrArg some (List.mem_singleton.mp member).symm, undeclined⟩
  constructor
  · intro c stored
    obtain ⟨x, first, undeclined⟩ :=
      found ⟨.authorization, c.authorizationId⟩ (List.mem_map_of_mem stored)
    rw [t.dossier_authorization, Option.map_eq_some_iff] at first
    obtain ⟨a, row, rfl⟩ := first
    exact ⟨a, row, undeclined⟩
  · intro c stored
    obtain ⟨x, first, undeclined⟩ := found ⟨.refund, c.refundId⟩ (List.mem_map_of_mem stored)
    rw [t.dossier_refund, Option.map_eq_some_iff] at first
    obtain ⟨r, row, rfl⟩ := first
    exact ⟨r, row, undeclined⟩

/-! ## Runs -/

namespace Service.Sample

open CardPayments.Sample

def authorization : Authorization :=
  .intake (.ofNat 1) "psp" "shop" ten CardPayments.Sample.authorization.currency
    (.ofPan ⟨"4111111111111111"⟩ .visa) .none (.ofSeconds 0)

def refund : Refund :=
  .intake (.ofNat 1) "psp" "shop" ten CardPayments.Sample.authorization.currency
    (.ofPan ⟨"4111111111111111"⟩ .visa) (.ofSeconds 0)

def capture : Capture := ⟨.ofNat 2, .ofNat 1, ten, false, .created, .ofSeconds 0⟩

def refundCapture : RefundCapture := ⟨.ofNat 3, .ofNat 1, ten, false, .created, .ofSeconds 0⟩

/-- The token is made, the row is stored, and the network fails. -/
def unreached : List Fate :=
  [.answered, .answered, .exchanged ⟨none, none⟩ (.error (.network "down"))]

def approved : List Fate :=
  [.answered, .answered,
    .exchanged ⟨some ⟨⟨"00"⟩, 1, none, .ofSeconds 0⟩, some (.visa none none)⟩ (.ok ()),
    .answered, .answered]

def smooth (calls : Nat) : List Fate := List.replicate calls .answered

/-- The networks fail, and what they did not approve is captured. -/
def undecided : List Visit :=
  [⟨.authorize authorization, unreached⟩, ⟨.capture "psp" capture, smooth 6⟩,
    ⟨.refund refund, unreached⟩, ⟨.captureRefund "psp" refundCapture, smooth 4⟩]

def settled : List Visit :=
  [⟨.authorize authorization, approved⟩, ⟨.capture "psp" capture, smooth 6⟩]

end Service.Sample

theorem captures_are_backed_settled :
    ∃ t sent, Visit.all (fun _ => false) Sample.processor .empty Service.Sample.settled =
        some (t, sent) ∧ t.captures.captures = [{ Service.Sample.capture with isFinal := true }] ∧
      ∀ c ∈ t.captures.captures, ∃ a, t.authorizations.row? c.authorizationId = some a ∧
        (a.status = .approved ∨ a.status = .new ∨ a.status = .failed) := by
  refine ⟨_, _, rfl, by decide, ?_⟩
  exact (captures_are_backed Sample.processor (fun _ => false) Service.Sample.settled _ _ rfl).1

theorem undecided_transactions_are_captured :
    ∃ t sent, Visit.all (fun _ => false) Sample.processor .empty Service.Sample.undecided =
        some (t, sent) ∧
      (∃ c ∈ t.captures.captures, c.status ≠ .failed ∧
        (t.authorizations.row? c.authorizationId).map Authorization.status = some .new) ∧
      ∃ c ∈ t.captures.refundCaptures, c.status ≠ .failed ∧
        (t.refunds.row? c.refundId).map Refund.status = some .new := by
  refine ⟨_, _, rfl, ?_⟩
  decide

end CardPayments
