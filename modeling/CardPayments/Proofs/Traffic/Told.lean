import CardPayments.Proofs.Traffic.History

/-! # What a request was told

What a request does rests on the answers it was given before.  A flow is followed along the answers
that it is told in one schedule; whatever else it could be answered does not matter. -/
set_option autoImplicit false

namespace CardPayments

/-- Which answers were given to which calls. -/
def Answers : Type := (call : Call) → call.Value → Prop

namespace Flow

variable {σ α : Type} {told : Answers} {C C' : Call → Prop} {M : Scheme → Message → Prop}

/-- Answered what is told, or with errors, the flow only makes such calls and only sends such
messages. -/
def Follows (told : Answers) (C : Call → Prop) (M : Scheme → Message → Prop) : Flow σ α → Prop
  | .finish .. => True
  | .ask _ call next => C call ∧ (∀ value, told call value → (next (.ok value)).Follows told C M) ∧
      ∀ e, (next (.error e)).Follows told C M
  | .send _ scheme message next => M scheme message ∧
      ∀ attached outcome, (next attached outcome).Follows told C M

theorem follows_require {held : σ} {step : String} {call : Call} {next : call.Value → Flow σ α}
    (asks : C call) (rest : ∀ value, told call value → (next value).Follows told C M) :
    (require held step call next).Follows told C M :=
  ⟨asks, rest, fun _ => trivial⟩

theorem follows_dispatch {p : Processor} {held : Attached → σ} {scheme : Scheme} {message : Message}
    {next : Attached → Except PaymentError Unit → Flow σ α} (sends : M scheme message)
    (rest : ∀ attached outcome, (next attached outcome).Follows told C M) :
    (p.dispatch held scheme message next).Follows told C M := by
  rw [Processor.dispatch]
  split
  · refine ⟨sends, fun attached outcome => ?_⟩
    cases outcome with
    | ok _ => exact rest _ _
    | error e => exact rest _ _
  · exact rest _ _

/-- What a flow does on every path it does along the answers it is told. -/
theorem Only.follows {M' : Message → Prop} {flow : Flow σ α} (only : flow.Only C M')
    (calls : ∀ call, C call → C' call)
    (messages : ∀ scheme message, M' message → M scheme message) : flow.Follows told C' M := by
  induction flow with
  | finish held answer => trivial
  | ask held call next ih =>
      exact ⟨calls call only.1, fun value _ => ih (.ok value) (only.2 (.ok value)),
        fun e => ih (.error e) (only.2 (.error e))⟩
  | send held scheme message next ih =>
      exact ⟨messages scheme message only.1, fun attached outcome => ih attached outcome
        (only.2 attached outcome)⟩

end Flow

def Stage.Follows {q : Request} (told : Answers) (C : Call → Prop) (M : Scheme → Message → Prop) :
    Stage q → Prop
  | .running flow => flow.Follows told C M
  | _ => True

namespace Traffic

variable {ι : Type} [DecidableEq ι] {requests : ι → Request} {p : Processor} {s : Traffic requests}
  {schedule : List (Act ι)} {i : ι}

theorem play_append (s : Traffic requests) (before after : List (Act ι)) :
    s.play p (before ++ after) = (s.play p before).play p after :=
  List.foldl_append ..

/-- In the schedule the request was given this answer to this call. -/
def Told (p : Processor) (s : Traffic requests) (schedule : List (Act ι)) (i : ι) : Answers :=
  fun call value => ∃ before after held next, schedule = before ++ .answer i :: after ∧
    (s.play p before).stage i = .running (.ask held call next) ∧
    ((s.play p before).stores.answer call).1 = .ok value

/-- The stores that gave an answer, just before and just after it. -/
theorem Told.stores {call : Call} {value : call.Value} (told : Told p s schedule i call value) :
    ∃ before after, schedule = before ++ .answer i :: after ∧
      ((s.play p before).stores.answer call).1 = .ok value ∧
      (s.play p (before ++ [.answer i])).stores = ((s.play p before).stores.answer call).2 := by
  obtain ⟨before, after, held, next, split, asks, answered⟩ := told
  refine ⟨before, after, split, answered, ?_⟩
  rw [play_concat, act]
  simp only [asks]
  rfl

theorem advance_all {P : (j : ι) → Stage (requests j) → Prop} (holds : ∀ j, P j (s.stage j))
    {stage : Stage (requests i)} (own : P i stage) (stores : Stores) (sent : List (Exchange ι))
    (j : ι) : P j ((s.advance i stage stores sent).stage j) := by
  by_cases here : j = i
  · subst here
    rwa [advance_stage_self]
  · rw [advance_stage_of_ne _ _ _ _ here]
    exact holds j

section

variable {told : ι → Answers} {C : ι → Call → Prop} {M : ι → Scheme → Message → Prop}

/-- One turn leaves every request on its way, as long as the answer it gives is told. -/
theorem act_follows (own : ∀ j, ((requests j).flow p).Follows (told j) (C j) (M j))
    (follows : ∀ j, (s.stage j).Follows (told j) (C j) (M j)) (a : Act ι)
    (answered : ∀ j held call next value, a = .answer j →
      s.stage j = .running (.ask held call next) → (s.stores.answer call).1 = .ok value →
      told j call value) :
    ∀ j, ((s.act p a).stage j).Follows (told j) (C j) (M j) := by
  have moved (i : ι) (stage : Stage (requests i)) (stores : Stores) (sent : List (Exchange ι))
      (fine : stage.Follows (told i) (C i) (M i)) :
      ∀ j, ((s.advance i stage stores sent).stage j).Follows (told j) (C j) (M j) :=
    advance_all (P := fun j stage => stage.Follows (told j) (C j) (M j)) follows fine stores sent
  cases a with
  | start i =>
      simp only [act]
      split
      · exact moved i _ _ _ (own i)
      · exact follows
  | answer i =>
      simp only [act]
      split
      · next held call next asks =>
          have here := follows i
          rw [asks] at here
          refine moved i _ _ _ ?_
          cases given : (s.stores.answer call).1 with
          | ok value => exact here.2.1 value (answered i held call next value rfl asks given)
          | error e => exact here.2.2 e
      · exact follows
  | refuse i e =>
      simp only [act]
      split
      · next held call next asks =>
          have here := follows i
          rw [asks] at here
          exact moved i _ _ _ (here.2.2 e)
      · exact follows
  | lose i e =>
      simp only [act]
      split
      · next held call next asks =>
          have here := follows i
          rw [asks] at here
          exact moved i _ _ _ (here.2.2 e)
      · exact follows
  | exchange i attached outcome =>
      simp only [act]
      split
      · next held scheme message next sends =>
          have here := follows i
          rw [sends] at here
          exact moved i _ _ _ (here.2 attached outcome)
      · exact follows
  | drop i =>
      simp only [act]
      split
      · exact moved i _ _ _ trivial
      · exact follows

/-- Along a schedule every request stays on the way that the answers of the schedule lead it. -/
theorem play_follows (stores : Stores) (schedule : List (Act ι))
    (own : ∀ j, ((requests j).flow p).Follows (Told p (start requests stores) schedule j)
      (C j) (M j)) (before after : List (Act ι)) (split : schedule = before ++ after) (j : ι) :
    (((start requests stores).play p before).stage j).Follows
      (Told p (start requests stores) schedule j) (C j) (M j) := by
  induction before using List.reverseRecOn generalizing after j with
  | nil => trivial
  | append_singleton before a ih =>
      rw [List.append_assoc, List.singleton_append] at split
      rw [play_concat]
      refine act_follows own (ih (a :: after) split) a ?_ j
      rintro i held call next value rfl asks given
      exact ⟨before, after, held, next, split, asks, given⟩

end

/-- A turn leaves the stores as they are, or is a call of one request. -/
theorem act_stores (s : Traffic requests) (a : Act ι) :
    (s.act p a).stores = s.stores ∨ ∃ i held call next,
      s.stage i = .running (.ask held call next) ∧
        (s.act p a).stores = (s.stores.answer call).2 := by
  rcases s.act_step p a with same | step
  · exact Or.inl (by rw [same])
  · generalize s.act p a = t at step
    generalize a.turn = turn at step
    cases step with
    | answer i held call next asks => exact Or.inr ⟨i, held, call, next, asks, rfl⟩
    | lose i held call next asks e => exact Or.inr ⟨i, held, call, next, asks, rfl⟩
    | start | refuse | exchange | drop => exact Or.inl rfl

end Traffic
end CardPayments
