import CardPayments.Proofs.Traffic.Footprint
import CardPayments.Proofs.Traffic.Linearization

/-! # The history of a schedule

The calls that the stores answer along a schedule, in their order and each with the stores as it
found them.  A request that starts from its own flow never asks anything else than that flow may
ask. -/
set_option autoImplicit false

namespace CardPayments

/-- A call of a request, and the stores that answered it. -/
structure Asked (ι : Type) where
  request : ι
  call : Call
  stores : Stores

def Asked.after {ι : Type} (e : Asked ι) : Stores := (e.stores.answer e.call).2

/-- No call fails.  Requests may still be dropped, and networks may do anything. -/
def Turn.Heard (turn : Turn) : Prop := turn ≠ .refused ∧ turn ≠ .unheard

namespace Stage

variable {q : Request}

def call? : Stage q → Option Call
  | .running (.ask _ call _) => some call
  | _ => none

/-- A request that runs only asks and sends what it may. -/
def Proper : Stage q → Prop
  | .running flow => flow.Only q.Asks q.Sends
  | _ => True

theorem Proper.asks {stage : Stage q} {call : Call} (proper : stage.Proper)
    (waits : stage.call? = some call) : q.Asks call := by
  cases stage with
  | waiting => cases waits
  | dropped => cases waits
  | running flow =>
      cases flow with
      | finish held answer => cases waits
      | send held scheme message next => cases waits
      | ask held own next =>
          cases waits
          exact proper.1

end Stage

namespace Traffic

variable {ι : Type} [DecidableEq ι] {requests : ι → Request} {p : Processor}

def asked? (s : Traffic requests) : Act ι → Option (Asked ι)
  | .answer i | .lose i _ => (s.stage i).call?.map fun call => ⟨i, call, s.stores⟩
  | _ => none

def history (p : Processor) (s : Traffic requests) : List (Act ι) → List (Asked ι)
  | [] => []
  | a :: rest => (s.asked? a).toList ++ (s.act p a).history p rest

theorem history_concat (s : Traffic requests) (schedule : List (Act ι)) (a : Act ι) :
    s.history p (schedule ++ [a]) =
      s.history p schedule ++ ((s.play p schedule).asked? a).toList := by
  induction schedule generalizing s with
  | nil => simp [history, play]
  | cons first rest inductionHypothesis =>
      rw [List.cons_append, history, history, inductionHypothesis, List.append_assoc]
      rfl

/-- What one turn does in which no call fails: nothing, an answer, or a step of one request that
leaves the stores alone. -/
theorem act_heard (s : Traffic requests) (a : Act ι) (heard : a.turn.Heard) :
    (s.act p a = s ∧ s.asked? a = none) ∨
      (∃ i held call next, s.stage i = .running (.ask held call next) ∧
        s.act p a = s.advance i (.running (next (s.stores.answer call).1))
          (s.stores.answer call).2 [] ∧
        s.asked? a = some ⟨i, call, s.stores⟩) ∨
      ∃ i stage sent, s.act p a = s.advance i stage s.stores sent ∧ s.asked? a = none ∧
        (s.stage i = .waiting ∧ stage = .running ((requests i).flow p) ∨ stage = .dropped ∨
          ∃ held scheme message next attached outcome,
            s.stage i = .running (.send held scheme message next) ∧
              stage = .running (next attached outcome)) := by
  cases a with
  | start i =>
      simp only [act]
      split
      · next waits => exact Or.inr (Or.inr ⟨i, _, [], rfl, rfl, Or.inl ⟨waits, rfl⟩⟩)
      · exact Or.inl ⟨rfl, rfl⟩
  | answer i =>
      cases stage : s.stage i with
      | waiting =>
          simp only [act, asked?, stage]
          exact Or.inl ⟨trivial, rfl⟩
      | dropped =>
          simp only [act, asked?, stage]
          exact Or.inl ⟨trivial, rfl⟩
      | running flow =>
          cases flow with
          | ask held call next =>
              refine Or.inr (Or.inl ⟨i, held, call, next, stage, ?_⟩)
              simp only [act, asked?, stage]
              exact ⟨trivial, rfl⟩
          | finish held answer =>
              simp only [act, asked?, stage]
              exact Or.inl ⟨trivial, rfl⟩
          | send held scheme message next =>
              simp only [act, asked?, stage]
              exact Or.inl ⟨trivial, rfl⟩
  | refuse i e => exact absurd rfl heard.1
  | lose i e => exact absurd rfl heard.2
  | exchange i attached outcome =>
      simp only [act]
      split
      · next held scheme message next sends =>
          exact Or.inr (Or.inr ⟨i, _, _, rfl, rfl,
            Or.inr (Or.inr ⟨held, scheme, message, next, attached, outcome, sends, rfl⟩)⟩)
      · exact Or.inl ⟨rfl, rfl⟩
  | drop i =>
      simp only [act]
      split
      · exact Or.inr (Or.inr ⟨i, _, [], rfl, rfl, Or.inr (Or.inl rfl)⟩)
      · exact Or.inl ⟨rfl, rfl⟩

theorem advance_proper {s : Traffic requests} (proper : ∀ i, (s.stage i).Proper) (i : ι)
    (stage : Stage (requests i)) (stores : Stores) (sent : List (Exchange ι))
    (own : stage.Proper) (j : ι) : ((s.advance i stage stores sent).stage j).Proper := by
  by_cases here : j = i
  · subst here
    rwa [advance_stage_self]
  · rw [advance_stage_of_ne _ _ _ _ here]
    exact proper j

theorem act_proper (s : Traffic requests) (a : Act ι) (proper : ∀ i, (s.stage i).Proper) (i : ι) :
    ((s.act p a).stage i).Proper := by
  rcases s.act_step p a with same | step
  · rw [same]
    exact proper i
  · generalize s.act p a = t at step
    generalize a.turn = turn at step
    cases step with
    | start j waits =>
        exact advance_proper proper j (.running _) _ _ ((requests j).flow_only p) i
    | answer j held call next asks =>
        have only := proper j
        rw [asks] at only
        exact advance_proper proper j (.running _) _ _ (only.2 _) i
    | refuse j held call next asks e =>
        have only := proper j
        rw [asks] at only
        exact advance_proper proper j (.running _) _ _ (only.2 _) i
    | lose j held call next asks e =>
        have only := proper j
        rw [asks] at only
        exact advance_proper proper j (.running _) _ _ (only.2 _) i
    | exchange j held scheme message next sends attached outcome =>
        have only := proper j
        rw [sends] at only
        exact advance_proper proper j (.running _) _ _ (only.2 _ _) i
    | drop j flow runs => exact advance_proper proper j .dropped _ _ trivial i

theorem history_asks (s : Traffic requests) (proper : ∀ i, (s.stage i).Proper)
    (schedule : List (Act ι)) :
    ∀ e ∈ s.history p schedule, (requests e.request).Asks e.call := by
  induction schedule generalizing s with
  | nil => simp [history]
  | cons a rest inductionHypothesis =>
      intro e member
      rw [history, List.mem_append] at member
      rcases member with now | later
      · rw [Option.mem_toList] at now
        have asks (i : ι)
            (found : (s.stage i).call?.map (fun call => ⟨i, call, s.stores⟩) = some e) :
            (requests e.request).Asks e.call := by
          obtain ⟨call, waits, rfl⟩ := Option.map_eq_some_iff.mp found
          exact (proper i).asks waits
        cases a with
        | answer i => exact asks i now
        | lose i error => exact asks i now
        | start i => cases now
        | refuse i error => cases now
        | exchange i attached outcome => cases now
        | drop i => cases now
      · exact inductionHypothesis _ (act_proper s a proper) e later

end Traffic
end CardPayments
