import Mathlib.Data.List.Induction
import Mathlib.Data.List.Nodup
import CardPayments.Proofs.Traffic.Basic

/-! # Requests in one order

Requests that only work on the stores can be told apart by the moment at which each is decided: one
call, after which the stores and the answer are those that the request would have had alone.  When
every flow has such a call on each of its paths, or gives up because another request was faster,
the requests that were decided, in the order of those calls, could as well have run one after
another. -/
set_option autoImplicit false

namespace CardPayments

/-- The answer of a request that gave up because others were faster. -/
def LostRace {α : Type} (answer : Except PaymentError α) : Prop :=
  ∃ e, answer = .error e ∧ e.root = .duplicateValue

theorem not_lostRace_ok {α : Type} (value : α) : ¬ LostRace (.ok value) := by
  rintro ⟨_, ⟨⟩, _⟩

theorem not_lostRace_error {α : Type} {e : PaymentError} (other : e.root ≠ .duplicateValue) :
    ¬ LostRace (.error e : Except PaymentError α) := by
  rintro ⟨_, ⟨⟩, root⟩
  exact other root

/-- The stores without what was published, which no request reads. -/
def Stores.records (s : Stores) : Stores := { s with published := [] }

theorem Stores.eq_of_records {s t : Stores} (same : s.records = t.records) :
    t = { s with published := t.published } := by
  obtain ⟨vault, authorizations, refunds, captures, reversals, published⟩ := s
  obtain ⟨vault', authorizations', refunds', captures', reversals', published'⟩ := t
  simp only [records, Stores.mk.injEq, and_true] at same
  obtain ⟨rfl, rfl, rfl, rfl, rfl⟩ := same
  rfl

/-- The answer to a request that has the stores to itself, and the stores after it. -/
def Effect (α : Type) : Type := Stores → Except PaymentError α × Stores

/-- What was published changes neither the answer nor the records. -/
def Effect.Blind {α : Type} (effect : Effect α) : Prop :=
  ∀ s t : Stores, s.records = t.records →
    (effect s).1 = (effect t).1 ∧ (effect s).2.records = (effect t).2.records

section

variable {σ α : Type} (Inv : Stores → Prop)

/-- The flow ends with the decision, and changes no record any more. -/
def Flow.Settles (decision : Except PaymentError α) : Flow σ α → Prop
  | .finish _ answer => answer = decision
  | .ask _ call next => ∀ s, Inv s → Inv (s.answer call).2 ∧
      (s.answer call).2.records = s.records ∧ (next (s.answer call).1).Settles decision
  | .send .. => False

/-- Each call of the flow changes no record, or decides the request as if it were alone. -/
def Flow.Competes (effect : Effect α) : Flow σ α → Prop
  | .finish _ answer => LostRace answer
  | .ask _ call next => ∀ s, Inv s → Inv (s.answer call).2 ∧
      ((s.answer call).2.records = s.records ∧ (next (s.answer call).1).Competes effect ∨
        (s.answer call).2.records = (effect s).2.records ∧ ¬ LostRace (effect s).1 ∧
          (next (s.answer call).1).Settles Inv (effect s).1)
  | .send .. => False

variable {q : Request}

def Stage.Settles (decision : Except PaymentError q.Answer) : Stage q → Prop
  | .running flow => flow.Settles Inv decision
  | _ => False

def Stage.Competes (effect : Effect q.Answer) : Stage q → Prop
  | .waiting => True
  | .running flow => flow.Competes Inv effect
  | .dropped => False

end

namespace Traffic

variable {ι : Type} [DecidableEq ι] {requests : ι → Request} {p : Processor}

@[simp] theorem advance_stage_self (s : Traffic requests) (i : ι) (stage : Stage (requests i))
    (stores : Stores) (sent : List (Exchange ι)) :
    (s.advance i stage stores sent).stage i = stage :=
  Function.update_self ..

theorem advance_stage_of_ne (s : Traffic requests) {i j : ι} (stage : Stage (requests i))
    (stores : Stores) (sent : List (Exchange ι)) (other : j ≠ i) :
    (s.advance i stage stores sent).stage j = s.stage j :=
  Function.update_of_ne other ..

theorem play_concat (s : Traffic requests) (schedule : List (Act ι)) (a : Act ι) :
    s.play p (schedule ++ [a]) = (s.play p schedule).act p a := by
  rw [play, play, List.foldl_append]
  rfl

/-- A request that has its answer takes no further turn. -/
theorem act_answered (s : Traffic requests) (a : Act ι) (smooth : a.turn.Smooth) (i : ι)
    (held : (requests i).Held) (answer : Except PaymentError (requests i).Answer)
    (ended : s.stage i = .running (.finish held answer)) : (s.act p a).stage i = s.stage i := by
  have other (j : ι) (stage : Stage (requests j)) (stores : Stores) (sent : List (Exchange ι))
      (runs : ∀ held answer, s.stage j ≠ .running (.finish held answer)) :
      (s.advance j stage stores sent).stage i = s.stage i := by
    refine s.advance_stage_of_ne stage stores sent ?_
    rintro rfl
    exact runs held answer ended
  cases a with
  | start j =>
      simp only [act]
      split
      · next waits => exact other j _ _ _ (by simp [waits])
      · rfl
  | answer j =>
      simp only [act]
      split
      · next asks => exact other j _ _ _ (by simp [asks])
      · rfl
  | exchange j attached outcome =>
      simp only [act]
      split
      · next sends => exact other j _ _ _ (by simp [sends])
      · rfl
  | refuse j e => simp [Act.turn, Turn.Smooth] at smooth
  | lose j e => simp [Act.turn, Turn.Smooth] at smooth
  | drop j => simp [Act.turn, Turn.Smooth] at smooth

theorem play_answered (s : Traffic requests) (schedule : List (Act ι))
    (smooth : ∀ a ∈ schedule, a.turn.Smooth) (i : ι) (held : (requests i).Held)
    (answer : Except PaymentError (requests i).Answer)
    (ended : s.stage i = .running (.finish held answer)) :
    (s.play p schedule).stage i = .running (.finish held answer) := by
  induction schedule generalizing s with
  | nil => exact ended
  | cons a rest ih =>
      have stays := s.act_answered (p := p) a (smooth a (List.mem_cons_self ..)) i held answer ended
      exact ih (s.act p a) (fun b member => smooth b (List.mem_cons_of_mem a member))
        (stays.trans ended)

/-- At some moment of the schedule the first request has its answer, and the second one has not been
started. -/
def Precedes (p : Processor) (s : Traffic requests) (schedule : List (Act ι)) (i j : ι) : Prop :=
  ∃ front back, schedule = front ++ back ∧ ((s.play p front).stage i).answer?.isSome ∧
    (s.play p front).stage j = .waiting

variable {s : Traffic requests} {schedule : List (Act ι)} {i j : ι}

theorem Precedes.of_concat {a : Act ι} (precedes : s.Precedes p (schedule ++ [a]) i j) :
    s.Precedes p schedule i j ∨ (s.play p (schedule ++ [a])).stage j = .waiting := by
  obtain ⟨front, back, split, answered, waits⟩ := precedes
  rcases List.eq_nil_or_concat back with rfl | ⟨most, last, rfl⟩
  · rw [List.append_nil] at split
    exact Or.inr (split ▸ waits)
  · rw [List.concat_eq_append, ← List.append_assoc] at split
    exact Or.inl ⟨front, most, (List.append_inj' split rfl).1, answered, waits⟩

theorem Precedes.answered (precedes : s.Precedes p schedule i j)
    (smooth : ∀ a ∈ schedule, a.turn.Smooth) :
    ∃ held answer, (s.play p schedule).stage i = .running (.finish held answer) := by
  obtain ⟨front, back, rfl, answered, _⟩ := precedes
  have ended : ∃ held answer, (s.play p front).stage i = .running (.finish held answer) := by
    cases stage : (s.play p front).stage i with
    | waiting => simp [stage, Stage.answer?] at answered
    | dropped => simp [stage, Stage.answer?] at answered
    | running flow =>
        cases flow with
        | finish held answer => exact ⟨held, answer, rfl⟩
        | ask held call next => simp [stage, Stage.answer?] at answered
        | send held scheme message next => simp [stage, Stage.answer?] at answered
  obtain ⟨held, answer, ended⟩ := ended
  refine ⟨held, answer, ?_⟩
  rw [play, List.foldl_append]
  exact play_answered _ back (fun a member => smooth a (List.mem_append_right _ member)) i held
    answer ended

end Traffic

/-! ## The order of decisions -/

section

variable {ι : Type} [DecidableEq ι] {requests : ι → Request}
  (effect : (i : ι) → Effect (requests i).Answer)

def Stores.after (s : Stores) (order : List ι) : Stores :=
  order.foldl (fun s i => (effect i s).2) s

/-- The requests that were decided, in the order of their decisions: run one after another they have
the same answers and leave the same records. -/
structure Traffic.Decided (p : Processor) (Inv : Stores → Prop) (s : Traffic requests)
    (schedule : List (Act ι)) (order : List ι) : Prop where
  once : order.Nodup
  kept : Inv (s.play p schedule).stores
  records : (s.stores.after effect order).records = (s.play p schedule).stores.records
  undecided : ∀ i, i ∉ order → ((s.play p schedule).stage i).Competes Inv (effect i)
  settled : ∀ front i back, order = front ++ i :: back →
    ¬ LostRace (effect i (s.stores.after effect front)).1 ∧
      ((s.play p schedule).stage i).Settles Inv (effect i (s.stores.after effect front)).1
  timely : order.Pairwise fun i j => ¬ s.Precedes p schedule j i

namespace Traffic.Decided

variable {effect} {p : Processor} {Inv : Stores → Prop} {s : Traffic requests}
  {schedule : List (Act ι)} {order : List ι} {a : Act ι} {i : ι} {stage : Stage (requests i)}
  {stores : Stores}

theorem start (stores : Stores) (holds : Inv stores) :
    (Traffic.start requests stores).Decided effect p Inv [] [] where
  once := .nil
  kept := holds
  records := rfl
  undecided _ _ := trivial
  settled front i back split := by simp at split
  timely := .nil

theorem not_waiting (decided : s.Decided effect p Inv schedule order) (member : i ∈ order) :
    (s.play p schedule).stage i ≠ .waiting := by
  obtain ⟨front, back, split⟩ := List.append_of_mem member
  intro waits
  have settles := (decided.settled front i back split).2
  rw [waits] at settles
  exact settles

theorem timely_concat (decided : s.Decided effect p Inv schedule order)
    (begun : ∀ i ∈ order, (s.play p (schedule ++ [a])).stage i ≠ .waiting) :
    order.Pairwise fun i j => ¬ s.Precedes p (schedule ++ [a]) j i := by
  refine decided.timely.imp_of_mem fun member _ notBefore precedes => ?_
  rcases precedes.of_concat with before | waits
  · exact notBefore before
  · exact begun _ member waits

/-- A turn of which no request but one takes note, and after which the records are the same. -/
theorem concat (decided : s.Decided effect p Inv schedule order)
    (after : s.play p (schedule ++ [a]) = (s.play p schedule).advance i stage stores [])
    (kept : Inv stores) (same : stores.records = (s.play p schedule).stores.records)
    (competes : i ∉ order → stage.Competes Inv (effect i))
    (settles : ∀ decision, i ∈ order → ((s.play p schedule).stage i).Settles Inv decision →
      stage.Settles Inv decision) :
    s.Decided effect p Inv (schedule ++ [a]) order := by
  have settled (front : List ι) (j : ι) (back : List ι) (split : order = front ++ j :: back) :
      ¬ LostRace (effect j (s.stores.after effect front)).1 ∧
        ((s.play p (schedule ++ [a])).stage j).Settles Inv
          (effect j (s.stores.after effect front)).1 := by
    obtain ⟨won, before⟩ := decided.settled front j back split
    refine ⟨won, ?_⟩
    rw [after]
    by_cases here : j = i
    · subst here
      rw [advance_stage_self]
      exact settles _ (by simp [split]) before
    · rwa [advance_stage_of_ne _ _ _ _ here]
  refine ⟨decided.once, by rwa [after], ?_, ?_, settled, ?_⟩
  · rw [decided.records, after]
    exact same.symm
  · intro j open_
    rw [after]
    by_cases here : j = i
    · subst here
      rw [advance_stage_self]
      exact competes open_
    · rw [advance_stage_of_ne _ _ _ _ here]
      exact decided.undecided j open_
  · refine decided.timely_concat fun j member waits => ?_
    obtain ⟨front, back, split⟩ := List.append_of_mem member
    have now := (settled front j back split).2
    rw [waits] at now
    exact now

theorem still (decided : s.Decided effect p Inv schedule order)
    (same : s.play p (schedule ++ [a]) = s.play p schedule) :
    s.Decided effect p Inv (schedule ++ [a]) order where
  once := decided.once
  kept := same ▸ decided.kept
  records := same ▸ decided.records
  undecided := same ▸ decided.undecided
  settled := same ▸ decided.settled
  timely := decided.timely_concat fun _ member => same ▸ decided.not_waiting member

/-- The request that is decided comes last in the order. -/
theorem append (decided : s.Decided effect p Inv schedule order)
    (blind : ∀ i, (effect i).Blind) (smooth : ∀ a ∈ schedule, a.turn.Smooth) (isNew : i ∉ order)
    (unanswered : ∀ held answer, (s.play p schedule).stage i ≠ .running (.finish held answer))
    (after : s.play p (schedule ++ [a]) = (s.play p schedule).advance i stage stores [])
    (kept : Inv stores)
    (alone : stores.records = (effect i (s.play p schedule).stores).2.records)
    (won : ¬ LostRace (effect i (s.play p schedule).stores).1)
    (settles : stage.Settles Inv (effect i (s.play p schedule).stores).1) :
    s.Decided effect p Inv (schedule ++ [a]) (order ++ [i]) := by
  obtain ⟨sameAnswer, sameRecords⟩ := blind i _ _ decided.records
  have other {j : ι} (member : j ∈ order) : j ≠ i := fun here => isNew (here ▸ member)
  have begun (j : ι) (member : j ∈ order) : (s.play p (schedule ++ [a])).stage j ≠ .waiting := by
    rw [after, advance_stage_of_ne _ _ _ _ (other member)]
    exact decided.not_waiting member
  refine ⟨?_, by rwa [after], ?_, ?_, ?_, ?_⟩
  · rw [List.nodup_append]
    refine ⟨decided.once, List.nodup_singleton i, fun j member k last => ?_⟩
    rw [List.mem_singleton.mp last]
    exact other member
  · rw [Stores.after, List.foldl_append, after]
    exact sameRecords.trans alone.symm
  · intro j open_
    rw [List.mem_append, List.mem_singleton, not_or] at open_
    rw [after, advance_stage_of_ne _ _ _ _ open_.2]
    exact decided.undecided j open_.1
  · intro front j back split
    rcases List.eq_nil_or_concat back with rfl | ⟨most, last, rfl⟩
    · -- the new request, which runs on the stores that all others leave
      obtain ⟨rfl, isLast⟩ := List.append_inj' split rfl
      obtain rfl : i = j := by simpa using isLast
      rw [after, advance_stage_self, sameAnswer]
      exact ⟨won, settles⟩
    · rw [List.concat_eq_append, ← List.cons_append, ← List.append_assoc] at split
      have old := (List.append_inj' split rfl).1
      rw [after, advance_stage_of_ne _ _ _ _ (other (by simp [old]))]
      exact decided.settled front j most old
  · rw [List.pairwise_append]
    refine ⟨decided.timely_concat begun, List.pairwise_singleton _ _, ?_⟩
    intro j member k last precedes
    rw [List.mem_singleton.mp last] at precedes
    rcases precedes.of_concat with before | waits
    · obtain ⟨held, answer, ended⟩ := before.answered smooth
      exact unanswered held answer ended
    · exact begun j member waits

theorem starts (decided : s.Decided effect p Inv schedule order)
    (competes : ((requests i).flow p).Competes Inv (effect i)) :
    s.Decided effect p Inv (schedule ++ [.start i]) order := by
  have after := play_concat (p := p) s schedule (.start i)
  cases stage : (s.play p schedule).stage i with
  | waiting =>
      simp only [act, stage] at after
      refine decided.concat after decided.kept rfl (fun _ => competes) fun decision _ settles => ?_
      rw [stage] at settles
      exact settles.elim
  | running flow =>
      simp only [act, stage] at after
      exact decided.still after
  | dropped =>
      simp only [act, stage] at after
      exact decided.still after

theorem exchanges (decided : s.Decided effect p Inv schedule order) (attached : Attached)
    (outcome : Except PaymentError Unit) :
    s.Decided effect p Inv (schedule ++ [.exchange i attached outcome]) order := by
  have after := play_concat (p := p) s schedule (.exchange i attached outcome)
  cases stage : (s.play p schedule).stage i with
  | waiting =>
      simp only [act, stage] at after
      exact decided.still after
  | dropped =>
      simp only [act, stage] at after
      exact decided.still after
  | running flow =>
      cases flow with
      | finish held answer =>
          simp only [act, stage] at after
          exact decided.still after
      | ask held call next =>
          simp only [act, stage] at after
          exact decided.still after
      | send held scheme message next =>
          by_cases member : i ∈ order
          · obtain ⟨front, back, split⟩ := List.append_of_mem member
            have settles := (decided.settled front i back split).2
            rw [stage] at settles
            exact settles.elim
          · have competes := decided.undecided i member
            rw [stage] at competes
            exact competes.elim

/-- The call of a request that was decided before changes nothing; that of another one decides it,
or is only a step on its way. -/
theorem answers (decided : s.Decided effect p Inv schedule order)
    (blind : ∀ i, (effect i).Blind) (smooth : ∀ a ∈ schedule, a.turn.Smooth) :
    ∃ order', s.Decided effect p Inv (schedule ++ [.answer i]) order' := by
  have after := play_concat (p := p) s schedule (.answer i)
  cases stage : (s.play p schedule).stage i with
  | waiting =>
      simp only [act, stage] at after
      exact ⟨order, decided.still after⟩
  | dropped =>
      simp only [act, stage] at after
      exact ⟨order, decided.still after⟩
  | running flow =>
      cases flow with
      | finish held answer =>
          simp only [act, stage] at after
          exact ⟨order, decided.still after⟩
      | send held scheme message next =>
          simp only [act, stage] at after
          exact ⟨order, decided.still after⟩
      | ask held call next =>
          simp only [act, stage] at after
          by_cases member : i ∈ order
          · obtain ⟨front, back, split⟩ := List.append_of_mem member
            have settles := (decided.settled front i back split).2
            rw [stage] at settles
            obtain ⟨kept, same, _⟩ := settles _ decided.kept
            refine ⟨order, decided.concat after kept same (absurd member) fun decision _ now => ?_⟩
            rw [stage] at now
            exact (now _ decided.kept).2.2
          · have competes := decided.undecided i member
            rw [stage] at competes
            obtain ⟨kept, ⟨same, goesOn⟩ | ⟨alone, won, settles⟩⟩ := competes _ decided.kept
            · exact ⟨order, decided.concat after kept same (fun _ => goesOn)
                fun _ isMember => absurd isMember member⟩
            · refine ⟨order ++ [i], decided.append blind smooth member ?_ after kept alone won
                settles⟩
              rw [stage]
              rintro _ _ ⟨⟩

end Traffic.Decided

/-- Requests that compete for the stores and are not disturbed can be put in order at any time. -/
theorem Traffic.exists_decided {p : Processor} {Inv : Stores → Prop} (stores : Stores)
    (holds : Inv stores) (blind : ∀ i, (effect i).Blind)
    (competes : ∀ i, ((requests i).flow p).Competes Inv (effect i)) (schedule : List (Act ι))
    (smooth : ∀ a ∈ schedule, a.turn.Smooth) :
    ∃ order, (Traffic.start requests stores).Decided effect p Inv schedule order := by
  induction schedule using List.reverseRecOn with
  | nil => exact ⟨[], .start stores holds⟩
  | append_singleton schedule a ih =>
      have before : ∀ b ∈ schedule, b.turn.Smooth := fun b member =>
        smooth b (List.mem_append_left _ member)
      obtain ⟨order, decided⟩ := ih before
      have now := smooth a (by simp)
      cases a with
      | start i => exact ⟨order, decided.starts (competes i)⟩
      | answer i => exact decided.answers blind before
      | exchange i attached outcome => exact ⟨order, decided.exchanges attached outcome⟩
      | refuse i e => simp [Act.turn, Turn.Smooth] at now
      | lose i e => simp [Act.turn, Turn.Smooth] at now
      | drop i => simp [Act.turn, Turn.Smooth] at now

end

end CardPayments
