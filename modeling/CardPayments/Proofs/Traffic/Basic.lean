import Mathlib.Logic.Function.Basic
import Mathlib.Logic.Relation
import CardPayments.Flow.Authorize
import CardPayments.Flow.Capture
import CardPayments.Flow.Reverse
import CardPayments.Store.Basic

/-! # Requests that take turns

Any number of requests work on the same stores.  In one turn one request takes one step of its flow:
a call is answered by the stores, or fails before or after it had its effect, or a message is
exchanged with a card network, which may do anything; or the request is dropped.  A run is any
sequence of turns. -/
set_option autoImplicit false

namespace CardPayments

inductive Request where
  | authorize (a : Authorization)
  | refund (r : Refund)
  | capture (psp : String) (c : Capture)
  | captureRefund (psp : String) (c : RefundCapture)
  | reverse (psp : String) (r : Reversal)

namespace Request

def Held : Request → Type
  | .authorize _ => Authorization
  | .refund _ => Refund
  | .capture .. => Unit
  | .captureRefund .. => Unit
  | .reverse .. => Reversal

def Answer : Request → Type
  | .authorize _ => Unit
  | .refund _ => Unit
  | .capture .. => Capture
  | .captureRefund .. => RefundCapture
  | .reverse .. => Unit

def flow (p : Processor) : (q : Request) → Flow q.Held q.Answer
  | .authorize a => p.authorize a
  | .refund r => p.refund r
  | .capture psp c => p.capture psp c
  | .captureRefund psp c => p.captureRefund psp c
  | .reverse psp r => p.reverse psp r

def On (id : Uuid) : Request → Prop
  | .capture _ c => c.authorizationId = id
  | .reverse _ r => r.authorizationId = id
  | _ => False

def capture? : Request → Option Capture
  | .capture _ c => some c
  | _ => none

def reversal? : Request → Option Reversal
  | .reverse _ r => some r
  | _ => none

def captureId? (q : Request) : Option Uuid := q.capture?.map Capture.id

def reversalId? (q : Request) : Option Uuid := q.reversal?.map Reversal.id

end Request

def DistinctIds {ι : Type} (key : Request → Option Uuid) (requests : ι → Request) : Prop :=
  ∀ i j id, key (requests i) = some id → key (requests j) = some id → i = j

inductive Stage (q : Request) where
  | waiting
  | running (flow : Flow q.Held q.Answer)
  | dropped

namespace Stage

variable {q : Request}

/-- The request is not under way: it has not been started, has its answer, or was dropped. -/
def Rests : Stage q → Prop
  | .running (.finish ..) => True
  | .running _ => False
  | _ => True

def answer? : Stage q → Option (Except PaymentError q.Answer)
  | .running (.finish _ answer) => some answer
  | _ => none

def Accepted (stage : Stage q) : Prop := ∃ value, stage.answer? = some (.ok value)

def ExchangeFailed (stage : Stage q) : Prop :=
  ∃ e : PaymentError,
    stage.answer? = some (.error (e.within "failed to reverse with the cardscheme"))

end Stage

/-- A message that was sent for a request, and what came of it. -/
structure Exchange (ι : Type) where
  request : ι
  message : Message
  attached : Attached
  outcome : Except PaymentError Unit

namespace Exchange

variable {ι : Type}

def Failed (x : Exchange ι) : Prop :=
  x.outcome ≠ .ok () ∨ Processor.checkFormat x.attached.response ≠ .ok ()

def ApprovesReversal (x : Exchange ι) : Prop :=
  (∃ r, x.message = .reverse r) ∧ ReversalStatus.ofResponse x.attached.response = .succeeded

instance (x : Exchange ι) : Decidable x.ApprovesReversal :=
  match sent : x.message with
  | .reverse r =>
      decidable_of_iff (ReversalStatus.ofResponse x.attached.response = .succeeded)
        ⟨fun approved => ⟨⟨r, sent⟩, approved⟩, And.right⟩
  | .authorize _ => isFalse fun approves => by simp [ApprovesReversal, sent] at approves
  | .refund _ => isFalse fun approves => by simp [ApprovesReversal, sent] at approves
  | .echo => isFalse fun approves => by simp [ApprovesReversal, sent] at approves

end Exchange

/-- The stores, how far each request has come, and the messages that were sent. -/
structure Traffic {ι : Type} (requests : ι → Request) where
  stores : Stores
  stage : (i : ι) → Stage (requests i)
  exchanges : List (Exchange ι)

inductive Turn where
  | started
  | answered
  /-- A call fails and has no effect. -/
  | refused
  /-- A call has its effect, and fails. -/
  | unheard
  | exchanged
  | dropped
deriving DecidableEq, Repr

/-- Nothing is disturbed: calls are answered and no request is dropped. -/
def Turn.Smooth (turn : Turn) : Prop :=
  turn = .started ∨ turn = .answered ∨ turn = .exchanged

namespace Traffic

variable {ι : Type} [DecidableEq ι] {requests : ι → Request}

def start (requests : ι → Request) (stores : Stores) : Traffic requests :=
  ⟨stores, fun _ => .waiting, []⟩

def advance (s : Traffic requests) (i : ι) (stage : Stage (requests i)) (stores : Stores)
    (sent : List (Exchange ι)) : Traffic requests :=
  ⟨stores, Function.update s.stage i stage, s.exchanges ++ sent⟩

inductive Step (p : Processor) (s : Traffic requests) : Turn → Traffic requests → Prop
  | start (i : ι) (waits : s.stage i = .waiting) :
      Step p s .started (s.advance i (.running ((requests i).flow p)) s.stores [])
  | answer (i : ι) (held : (requests i).Held) (call : Call)
      (next : Except PaymentError call.Value → Flow (requests i).Held (requests i).Answer)
      (asks : s.stage i = .running (.ask held call next)) :
      Step p s .answered
        (s.advance i (.running (next (s.stores.answer call).1)) (s.stores.answer call).2 [])
  | refuse (i : ι) (held : (requests i).Held) (call : Call)
      (next : Except PaymentError call.Value → Flow (requests i).Held (requests i).Answer)
      (asks : s.stage i = .running (.ask held call next)) (e : PaymentError) :
      Step p s .refused (s.advance i (.running (next (.error e))) s.stores [])
  | lose (i : ι) (held : (requests i).Held) (call : Call)
      (next : Except PaymentError call.Value → Flow (requests i).Held (requests i).Answer)
      (asks : s.stage i = .running (.ask held call next)) (e : PaymentError) :
      Step p s .unheard (s.advance i (.running (next (.error e))) (s.stores.answer call).2 [])
  | exchange (i : ι) (held : Attached → (requests i).Held) (scheme : Scheme) (message : Message)
      (next : Attached → Except PaymentError Unit → Flow (requests i).Held (requests i).Answer)
      (sends : s.stage i = .running (.send held scheme message next)) (attached : Attached)
      (outcome : Except PaymentError Unit) :
      Step p s .exchanged (s.advance i (.running (next attached outcome)) s.stores
        [⟨i, message, attached, outcome⟩])
  | drop (i : ι) (flow : Flow (requests i).Held (requests i).Answer)
      (runs : s.stage i = .running flow) : Step p s .dropped (s.advance i .dropped s.stores [])

/-- `t` comes after `s` in some run whose turns are all allowed. -/
def Reaches (p : Processor) (allowed : Turn → Prop) : Traffic requests → Traffic requests → Prop :=
  Relation.ReflTransGen fun s t => ∃ turn, allowed turn ∧ s.Step p turn t

theorem Reaches.ne_dropped {p : Processor} {s t : Traffic requests}
    (reaches : s.Reaches p Turn.Smooth t) (before : ∀ i, s.stage i ≠ .dropped) (i : ι) :
    t.stage i ≠ .dropped := by
  induction reaches with
  | refl => exact before i
  | @tail middle last _ step ih =>
      obtain ⟨turn, smooth, step⟩ := step
      have moved (j : ι) (stage : Stage (requests j)) (runs : stage ≠ .dropped) :
          Function.update middle.stage j stage i ≠ .dropped := by
        by_cases same : i = j
        · subst same
          rwa [Function.update_self]
        · rwa [Function.update_of_ne same]
      cases step with
      | start j => exact moved j _ (by simp)
      | answer j => exact moved j _ (by simp)
      | refuse j => exact moved j _ (by simp)
      | lose j => exact moved j _ (by simp)
      | exchange j => exact moved j _ (by simp)
      | drop j => simp [Turn.Smooth] at smooth

end Traffic

/-! ## Schedules -/

/-- What a scheduler decides: which request takes the turn, and what happens to it. -/
inductive Act (ι : Type) where
  | start (i : ι)
  | answer (i : ι)
  | refuse (i : ι) (e : PaymentError)
  | lose (i : ι) (e : PaymentError)
  | exchange (i : ι) (attached : Attached) (outcome : Except PaymentError Unit)
  | drop (i : ι)

def Act.turn {ι : Type} : Act ι → Turn
  | .start _ => .started
  | .answer _ => .answered
  | .refuse .. => .refused
  | .lose .. => .unheard
  | .exchange .. => .exchanged
  | .drop _ => .dropped

namespace Traffic

variable {ι : Type} [DecidableEq ι] {requests : ι → Request}

/-- The traffic after a turn; nothing happens when the request cannot take it. -/
def act (p : Processor) (s : Traffic requests) : Act ι → Traffic requests
  | .start i =>
      match s.stage i with
      | .waiting => s.advance i (.running ((requests i).flow p)) s.stores []
      | _ => s
  | .answer i =>
      match s.stage i with
      | .running (.ask _ call next) =>
          s.advance i (.running (next (s.stores.answer call).1)) (s.stores.answer call).2 []
      | _ => s
  | .refuse i e =>
      match s.stage i with
      | .running (.ask _ _ next) => s.advance i (.running (next (.error e))) s.stores []
      | _ => s
  | .lose i e =>
      match s.stage i with
      | .running (.ask _ call next) =>
          s.advance i (.running (next (.error e))) (s.stores.answer call).2 []
      | _ => s
  | .exchange i attached outcome =>
      match s.stage i with
      | .running (.send _ _ message next) =>
          s.advance i (.running (next attached outcome)) s.stores [⟨i, message, attached, outcome⟩]
      | _ => s
  | .drop i =>
      match s.stage i with
      | .running _ => s.advance i .dropped s.stores []
      | _ => s

def play (p : Processor) (s : Traffic requests) (schedule : List (Act ι)) : Traffic requests :=
  schedule.foldl (act p) s

theorem act_step (p : Processor) (s : Traffic requests) (a : Act ι) :
    s.act p a = s ∨ s.Step p a.turn (s.act p a) := by
  cases a with
  | start i =>
      simp only [act]
      split
      · next waits => exact Or.inr (.start i waits)
      · exact Or.inl rfl
  | answer i =>
      simp only [act]
      split
      · next held call next asks => exact Or.inr (.answer i held call next asks)
      · exact Or.inl rfl
  | refuse i e =>
      simp only [act]
      split
      · next held call next asks => exact Or.inr (.refuse i held call next asks e)
      · exact Or.inl rfl
  | lose i e =>
      simp only [act]
      split
      · next held call next asks => exact Or.inr (.lose i held call next asks e)
      · exact Or.inl rfl
  | exchange i attached outcome =>
      simp only [act]
      split
      · next held scheme message next sends =>
          exact Or.inr (.exchange i held scheme message next sends attached outcome)
      · exact Or.inl rfl
  | drop i =>
      simp only [act]
      split
      · next flow runs => exact Or.inr (.drop i flow runs)
      · exact Or.inl rfl

theorem play_reaches (p : Processor) (allowed : Turn → Prop) (s : Traffic requests)
    (schedule : List (Act ι)) (all : ∀ a ∈ schedule, allowed a.turn) :
    s.Reaches p allowed (s.play p schedule) := by
  induction schedule generalizing s with
  | nil => exact .refl
  | cons a rest ih =>
      have later := ih (s.act p a) fun b member => all b (List.mem_cons_of_mem a member)
      rcases act_step p s a with same | step
      · rw [same] at later
        simpa only [play, List.foldl_cons, same] using later
      · exact .head ⟨a.turn, all a (List.mem_cons_self ..), step⟩ later

end Traffic
end CardPayments
