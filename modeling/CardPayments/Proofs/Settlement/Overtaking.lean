import CardPayments.Proofs.Settlement.Coverage
import CardPayments.Proofs.Settlement.Sight

/-! # Final captures that overtake a reversal

A reversal looks for a final capture and reads the summary of the captures in two calls.  A final
capture that is stored between them is in the summary that the reversal relies on; the second look
at the summary finds it unchanged, and in the end both stand.  There is no other way: where no
final capture is stored while a reversal is between the two calls, a final capture and a reversal
that succeeded never stand together. -/
set_option autoImplicit false

namespace CardPayments

open Settlement

variable {ι : Type} {requests : ι → Request} {id : Uuid} {authorized : Amount → Prop}

/-- The final captures that stand beside a committed reversal may still be taken back. -/
def Sealed (l : Ledger ι) : Prop :=
  Committed (fun _ => True) l.reversals l.phase →
    ∀ c ∈ l.captures, c.status ≠ .failed → c.isFinal = true → InDoubt l.phase c.id

theorem Sealed.of_summary {l : Ledger ι} {summary : CaptureSummary}
    (summed : CaptureSummary.ofCaptures l.captures = .ok summary)
    (isOpen : summary.hasFinal = false) : Sealed l := by
  intro _ c member stands isFinal
  have closed := (CaptureSummary.ofCaptures_hasFinal _ _ summed).mpr ⟨c, member, stands, isFinal⟩
  rw [isOpen] at closed
  cases closed

/-- No more reversals are committed, and what was in doubt still is. -/
theorem Sealed.stays {l l' : Ledger ι} (isSealed : Sealed l) (captures : l'.captures = l.captures)
    (committed : Committed (fun _ => True) l'.reversals l'.phase →
      Committed (fun _ => True) l.reversals l.phase)
    (doubts : ∀ captureId, InDoubt l.phase captureId → InDoubt l'.phase captureId) : Sealed l' := by
  intro isCommitted c member stands isFinal
  rw [captures] at member
  exact doubts c.id (isSealed (committed isCommitted) c member stands isFinal)

variable [DecidableEq ι]

variable {l l' : Ledger ι} {turn : Turn}

namespace Sealed

variable {i : ι} {next : Phase}

theorem enter (isSealed : Sealed l) (other : ∀ r, next ≠ .cleared r ∧ next ≠ .answered r)
    (balance : ∀ c, (l.phase i).balance? = some c → next.balance? = some c) :
    Sealed { l with phase := Function.update l.phase i next } :=
  isSealed.stays rfl (fun committed => committed.of_enter_other other) fun _ inDoubt =>
    inDoubt.enter fun c inBalance _ => balance c inBalance

theorem capture (isSealed : Sealed l) (idle : l.phase i = .idle) (c : Capture) :
    Sealed { l with
      captures := l.captures ++ [c]
      phase := Function.update l.phase i (.captured c) } := by
  intro committed x member stands isFinal
  rcases List.mem_append.mp member with old | isNew
  · have before := isSealed (committed.of_enter_other (by simp)) x old stands isFinal
    exact before.enter_outside (by rw [idle]; rfl)
  · have here : Function.update l.phase i (.captured c) i = .captured c := Function.update_self ..
    rw [List.mem_singleton.mp isNew]
    exact ⟨i, c, congrArg Phase.balance? here, rfl⟩

theorem withdraw (isSealed : Sealed l) (kept : Kept requests 28 l.captures l.phase) {c : Capture}
    {captures : List Capture} (withdraws : l.phase i = .withdrawn c)
    (changed : RowChanged (fun row => row.id = c.id) (fun row => { row with status := .failed })
      l.captures captures) :
    Sealed { l with captures := captures, phase := Function.update l.phase i .over } := by
  obtain ⟨front, row, back, split, rfl, named⟩ := changed
  intro committed x member stands isFinal
  rw [List.mem_append, List.mem_cons, or_left_comm, ← List.mem_append] at member
  -- only the row that fails now is no longer in doubt
  have elsewhere : x ∈ front ++ back := by
    rcases member with rfl | elsewhere
    · exact absurd rfl stands
    · exact elsewhere
  have stored : x ∈ l.captures := by
    rw [split, List.mem_append, List.mem_cons, or_left_comm, ← List.mem_append]
    exact Or.inr elsewhere
  have before := isSealed (committed.of_enter_other (by simp)) x stored stands isFinal
  exact before.enter_withdrawn withdraws (named ▸ kept.id_ne split elsewhere)

theorem reverse (isSealed : Sealed l) (idle : l.phase i = .idle) {r : Reversal}
    (fresh : r.status = .new) :
    Sealed { l with
      reversals := l.reversals ++ [r.row]
      phase := Function.update l.phase i (.reversing r) } := by
  have unsucceeded : r.row.status ≠ .succeeded := fun succeeded =>
    nomatch fresh.symm.trans succeeded
  exact isSealed.stays rfl
    (fun committed => (committed.of_enter_other (by simp)).of_append unsucceeded)
    fun _ inDoubt => inDoubt.enter_outside (by rw [idle]; rfl)

/-- A reversal that succeeds was committed before. -/
theorem conclude (isSealed : Sealed l) {r : Reversal} {status : ReversalStatus}
    {rows : List Reversal} (balance : (l.phase i).balance? = none)
    (answered : status = .succeeded → l.phase i = .answered r)
    (changed : RowChanged (fun row => row.id = r.id)
      (fun row => { row with status := status, response := r.response }) l.reversals rows) :
    Sealed { l with reversals := rows, phase := Function.update l.phase i .over } := by
  obtain ⟨front, row, back, split, rfl, named⟩ := changed
  exact isSealed.stays rfl
    (fun committed =>
      (committed.of_enter_other (by simp)).of_conclude split (fun _ => trivial) answered)
    fun _ inDoubt => inDoubt.enter_outside balance

theorem read (isSealed : Sealed l) (smooth : turn.Smooth)
    (exclusive : Exclusive requests l.reversals l.phase)
    (kept : Kept requests 28 l.captures l.phase)
    (clears : ∀ r, next = .cleared r → l.phase i ≠ .cleared r →
      ∃ summary, CaptureSummary.ofCaptures l.captures = .ok summary ∧ summary.hasFinal = false)
    (reads : l.Reads authorized turn (requests i) (l.phase i) next) :
    Sealed { l with phase := Function.update l.phase i next } := by
  generalize before : l.phase i = phase at reads
  have quiet (other : ∀ r, next ≠ .cleared r ∧ next ≠ .answered r)
      (balance : ∀ c, phase.balance? = some c → next.balance? = some c) :
      Sealed { l with phase := Function.update l.phase i next } :=
    isSealed.enter other (before ▸ balance)
  cases reads with
  | keep c free =>
      -- a capture gets beyond doubt only while nothing is committed
      intro committed
      exact absurd (committed.of_enter_other (by simp)) (not_committed exclusive free)
  | regret c => exact quiet (by simp) fun _ inBalance => inBalance
  | withdraw c missing =>
      obtain ⟨_, row, stored, named⟩ := kept.balance i c (by rw [before]; rfl)
      exact absurd named (missing smooth row stored)
  | clear r summary leaves current =>
      obtain ⟨found, summed, isOpen⟩ := clears r rfl (by simp [before])
      exact .of_summary (l := { l with phase := _ }) summed isOpen
  | refused => exact quiet (by simp) (by rintro _ ⟨⟩)
  | back r => exact quiet (by simp) (by rintro _ ⟨⟩)
  | abandon r => exact quiet (by simp) (by rintro _ ⟨⟩)
  | retract r missing => exact quiet (by simp) (by rintro _ ⟨⟩)
  | conclude r missing => exact quiet (by simp) (by rintro _ ⟨⟩)

end Sealed

namespace Ledger.Step

theorem kept (step : l.Step requests id authorized turn l') (smooth : turn.Smooth)
    (distinct : DistinctIds Request.captureId? requests)
    (kept : Kept requests 28 l.captures l.phase) : Kept requests 28 l'.captures l'.phase := by
  cases step with
  | still => exact kept
  | read i after reads =>
      generalize before : l.phase i = phase at reads
      refine kept.enter (fun isIdle => ?_) fun c inBalance => ?_
      · subst isIdle
        cases reads
      · rw [before]
        cases reads with
        | regret c => exact inBalance
        | _ => cases inBalance
  | capture i c seen current after idle checked summary same heard =>
      have isCaptured := heard.resolve_right fun rough => rough.2 smooth
      subst isCaptured
      obtain ⟨wanted, own, sameCapture⟩ := checked.own
      have owns : (requests i).captureId? = some c.id := by
        rw [Request.captureId?, own, sameCapture]
        rfl
      exact kept.capture distinct idle owns c.amount.value.scale_le
  | withdraw i c captures withdraws changed => exact kept.withdraw c changed
  | reverse i r after idle prepared free heard =>
      have isReversing := heard.resolve_right fun rough => rough.2 smooth
      subst isReversing
      exact kept.enter (by rintro ⟨⟩) (by rintro _ ⟨⟩)
  | conclude i r status reversals which changed =>
      exact kept.enter (by rintro ⟨⟩) (by rintro _ ⟨⟩)
  | send i r attached outcome after clears goes =>
      refine kept.enter (fun isIdle => ?_) fun c inBalance => ?_
      · subst isIdle
        rcases goes with ⟨isIdle, _⟩ | isIdle <;> cases isIdle
      · rcases goes with ⟨rfl, _⟩ | rfl <;> cases inBalance

/-- Where a reversal is cleared only while there is no final capture, final captures beside a
committed reversal remain in doubt. -/
theorem isSealed (step : l.Step requests id authorized turn l') (smooth : turn.Smooth)
    (exclusive : Exclusive requests l.reversals l.phase)
    (kept : Kept requests 28 l.captures l.phase)
    (clears : ∀ i r, l'.phase i = .cleared r → l.phase i ≠ .cleared r →
      ∃ summary, CaptureSummary.ofCaptures l.captures = .ok summary ∧ summary.hasFinal = false)
    (isSealed : Sealed l) : Sealed l' := by
  cases step with
  | still => exact isSealed
  | read i after reads =>
      refine isSealed.read smooth exclusive kept (fun r isCleared => clears i r ?_) reads
      exact (Function.update_self ..).trans isCleared
  | capture i c seen current after idle checked summary same heard =>
      have isCaptured := heard.resolve_right fun rough => rough.2 smooth
      subst isCaptured
      exact isSealed.capture idle c
  | withdraw i c captures withdraws changed => exact isSealed.withdraw kept withdraws changed
  | reverse i r after idle prepared free heard =>
      have isReversing := heard.resolve_right fun rough => rough.2 smooth
      subst isReversing
      exact isSealed.reverse idle prepared.fresh
  | conclude i r status reversals which changed =>
      rcases which with ⟨withdraws, rfl⟩ | ⟨answered, rfl⟩
      · exact isSealed.conclude (by rw [withdraws]; rfl) (by simp) changed
      · exact isSealed.conclude (by rw [answered]; rfl) (fun _ => answered) changed
  | send i r attached outcome after isCleared goes =>
      exact isSealed.stays rfl (fun _ => .cleared i r isCleared trivial)
        fun _ inDoubt => inDoubt.enter_outside (by rw [isCleared]; rfl)

end Ledger.Step

/-! ## What reversals have seen -/

namespace Settlement

/-- A request that looks at the summary wants a reversal and has not stored it, what was seen shows
no final capture, and no reversal is stored blindly. -/
structure Watchful (q : Request) (phase : Phase × Sight) : Prop where
  looks : phase.2 = .looking → phase.1 = .idle ∧ q.reversalId?.isSome = true
  seen : ∀ summary, phase.2 = .seen summary → summary.hasFinal = false
  sees : ∀ r, phase.1 = .reversing r → ∃ summary, phase.2 = .seen summary

variable {q : Request} {before after : Phase × Sight} {call : Call}
  {answer : Except PaymentError call.Value}

theorem watchful_first (q : Request) : Watchful q (.idle, .blind) := by
  constructor <;> simp

theorem Watchful.ask {s t : Stores} (watchful : Watchful q before)
    (answers : s.answer call = (answer, t))
    (found : before.2 = .looking →
      ∀ summary, s.captures.summary id = .ok summary → summary.hasFinal = false)
    (sees : Sees q id after.1 before.2 call answer after.2) : Watchful q after := by
  obtain ⟨phase, sight⟩ := before
  obtain ⟨next, seen⟩ := after
  cases sees with
  | check call answer idle own =>
      exact ⟨fun _ => ⟨idle, own⟩, nofun, fun _ stores => nomatch idle.symm.trans stores⟩
  | read summary idle =>
      refine ⟨nofun, fun other same => ?_, fun _ stores => nomatch idle.symm.trans stores⟩
      cases same
      exact found rfl summary (congrArg Prod.fst answers)
  | miss answer idle => exact ⟨nofun, nofun, fun _ stores => nomatch idle.symm.trans stores⟩
  | store summary r call answer reverses =>
      exact ⟨nofun, watchful.seen, fun _ _ => ⟨summary, rfl⟩⟩
  | compare summary current r same clears =>
      exact ⟨nofun, nofun, fun _ stores => nomatch clears.symm.trans stores⟩
  | other sight call answer sighted otherwise =>
      exact ⟨nofun, nofun, fun r stores => absurd stores (otherwise r).1⟩

theorem Watchful.send {message : Message} {attached : Attached}
    {outcome : Except PaymentError Unit}
    (sends : Sends before.1 message attached outcome after.1) (blind : after.2 = .blind) :
    Watchful q after := by
  obtain ⟨phase, sight⟩ := before
  obtain ⟨next, seen⟩ := after
  subst blind
  have unstored (r : Reversal) : next ≠ .reversing r := by
    cases sends <;> simp
  exact ⟨nofun, nofun, fun r stores => absurd stores (unstored r)⟩

/-- A reversal is cleared when the summary has not changed since it was seen. -/
theorem Watchful.clear {s t : Stores} {r : Reversal} (watchful : Watchful q before)
    (answers : s.answer call = (answer, t))
    (sees : Sees q id after.1 before.2 call answer after.2) (clears : after.1 = .cleared r) :
    ∃ summary, s.captures.summary id = .ok summary ∧ summary.hasFinal = false := by
  obtain ⟨phase, sight⟩ := before
  obtain ⟨next, seen⟩ := after
  cases sees with
  | compare summary current _ same =>
      have sameFinal := ((CaptureSummary.same_iff current summary).mp same).2
      exact ⟨current, congrArg Prod.fst answers, sameFinal.trans (watchful.seen summary rfl)⟩
  | check _ _ idle => cases idle.symm.trans clears
  | read _ idle => cases idle.symm.trans clears
  | miss _ idle => cases idle.symm.trans clears
  | store _ _ _ _ reverses => cases reverses.symm.trans clears
  | other _ _ _ _ otherwise => exact absurd clears (otherwise r).2

end Settlement

/-! ## Runs -/

/-- A reversal is about to see the summary for the first time, and will find a final capture. -/
def Traffic.Overtaken (t : Traffic requests) (id : Uuid) : Prop :=
  ∃ i r, (requests i).reversal? = some r ∧
    (∀ row ∈ t.stores.reversals.ofAuthorization id, row.id ≠ r.id) ∧
    (∃ held next, t.stage i = .running (.ask held (.captureSummary id) next)) ∧
    ∃ summary, t.stores.captures.summary id = .ok summary ∧ summary.hasFinal = true

/-- A request that looks at the summary asks for it. -/
theorem Settlement.asks_of_looking {q : Request} {phase : Phase} {stage : Stage q}
    (obeys : stage.Obeys (sighted q id authorized q.Held q.Answer) (.idle, .blind)
      (phase, .looking))
    (kept : stage ≠ .dropped) :
    ∃ held next, stage = .running (.ask held (.captureSummary id) next) := by
  cases stage with
  | waiting => cases obeys
  | dropped => exact absurd rfl kept
  | running flow =>
      cases flow with
      | finish held answer => exact absurd rfl obeys.2
      | send held scheme message next =>
          obtain ⟨_, ⟨_, blind, _⟩, _⟩ := obeys ⟨none, none⟩ (.ok ())
          cases blind
      | ask held call next =>
          obtain ⟨⟨after, seen⟩, ⟨_, sees⟩, _⟩ := obeys.2 default
          cases sees with
          | miss => exact ⟨held, next, rfl⟩
          | other _ _ _ sighted => exact absurd rfl sighted

section

variable {o o' : Overview ι (Phase × Sight)}

/-- What a smooth turn does to one request. -/
theorem Overview.Move.inv (move : o.Move (sightings requests id authorized) turn o')
    (smooth : turn.Smooth) (i : ι) :
    o'.phase i = o.phase i ∨
      (∃ call answer stores, o.stores.answer call = (answer, stores) ∧
        Sees (requests i) id (o'.phase i).1 (o.phase i).2 call answer (o'.phase i).2) ∨
      ∃ message attached outcome, Sends (o.phase i).1 message attached outcome (o'.phase i).1 ∧
        (o'.phase i).2 = .blind := by
  cases move with
  | still => exact Or.inl rfl
  | answered j call answer stores after answers asks =>
      by_cases same : i = j
      · subst same
        refine Or.inr (Or.inl ⟨call, answer, stores, answers, ?_⟩)
        simpa only [Function.update_self] using asks.2
      · exact Or.inl (Function.update_of_ne same ..)
  | refused => simp [Turn.Smooth] at smooth
  | unheard => simp [Turn.Smooth] at smooth
  | exchanged j message attached outcome after sends =>
      by_cases same : i = j
      · subst same
        refine Or.inr (Or.inr ⟨message, attached, outcome, ?_⟩)
        simpa only [Function.update_self] using ⟨sends.1, sends.2.2⟩
      · exact Or.inl (Function.update_of_ne same ..)

/-- What holds while no reversal is overtaken. -/
structure Observed (requests : ι → Request) (id : Uuid) (o : Overview ι (Phase × Sight)) :
    Prop where
  guarded : Guarded requests (o.phases.ledger id)
  kept : Kept requests 28 (o.phases.ledger id).captures (o.phases.ledger id).phase
  isSealed : Sealed (o.phases.ledger id)
  watchful : ∀ i, Watchful (requests i) (o.phase i)

theorem Overview.Move.observed (move : o.Move (sightings requests id authorized) turn o')
    (smooth : turn.Smooth) (captures : DistinctIds Request.captureId? requests)
    (reversals : DistinctIds Request.reversalId? requests) (observed : Observed requests id o)
    (found : ∀ i, (o.phase i).2 = .looking →
      ∀ summary, o.stores.captures.summary id = .ok summary → summary.hasFinal = false) :
    Observed requests id o' := by
  obtain ⟨guarded, kept, isSealed, watchful⟩ := observed
  obtain ⟨step, _⟩ := move.phases.ledger
  refine ⟨step.guarded reversals guarded, step.kept smooth captures kept,
    step.isSealed smooth guarded.exclusive kept (fun i r clears wasOther => ?_) isSealed,
    fun i => ?_⟩
  · have isCleared : (o'.phase i).1 = .cleared r := clears
    rcases move.inv smooth i with same | ⟨call, answer, stores, answers, sees⟩ |
      ⟨message, attached, outcome, sends, _⟩
    · exact absurd ((congrArg Prod.fst same).symm.trans isCleared) wasOther
    · exact (watchful i).clear answers sees isCleared
    · generalize (o.phase i).1 = before at sends
      rw [isCleared] at sends
      cases sends
  · rcases move.inv smooth i with same | ⟨call, answer, stores, answers, sees⟩ |
      ⟨message, attached, outcome, sends, blind⟩
    · exact same ▸ watchful i
    · exact (watchful i).ask answers (found i) sees
    · exact .send sends blind

variable {s t : Traffic requests} {p : Processor}

omit [DecidableEq ι] in
/-- A reversal that looks at the summary overtakes no final capture. -/
theorem Observed.found (observed : Observed requests id o)
    (shows : s.Shows (sightings requests id authorized) (.idle, .blind) o)
    (reversals : DistinctIds Request.reversalId? requests) (whole : ∀ i, s.stage i ≠ .dropped)
    (clear : ¬ s.Overtaken id) (i : ι) (looks : (o.phase i).2 = .looking)
    (summary : CaptureSummary) (summed : o.stores.captures.summary id = .ok summary) :
    summary.hasFinal = false := by
  obtain ⟨idle, wants⟩ := (observed.watchful i).looks looks
  obtain ⟨named, own⟩ := Option.isSome_iff_exists.mp wants
  obtain ⟨r, isReversal, rfl⟩ := Option.map_eq_some_iff.mp own
  have staged := shows.staged i
  rw [show o.phase i = ((o.phase i).1, .looking) from Prod.ext rfl looks] at staged
  have unstored : ∀ row ∈ s.stores.reversals.ofAuthorization id, row.id ≠ r.id := by
    intro row member same
    rw [← shows.phases.ledger_reversals] at member
    obtain ⟨j, owns, busy⟩ :=
      observed.guarded.exclusive.owned.owner row.id (List.mem_map_of_mem member)
    have isOwner := reversals i j r.id own (same ▸ owns)
    exact busy (isOwner ▸ idle)
  refine Bool.eq_false_iff.mpr fun closed => clear ?_
  exact ⟨i, r, isReversal, unstored, asks_of_looking staged (whole i), summary,
    shows.stores ▸ summed, closed⟩

/-- A run in which no reversal is overtaken is observed throughout. -/
theorem Traffic.Shows.observed (on : ∀ i, (requests i).On id)
    (captures : DistinctIds Request.captureId? requests)
    (reversals : DistinctIds Request.reversalId? requests) (whole : ∀ i, s.stage i ≠ .dropped)
    (shows : s.Shows (sightings requests id fun _ => True) (.idle, .blind) o)
    (first : Observed requests id o)
    (run : Relation.ReflTransGen
      (fun s t => (∃ turn, turn.Smooth ∧ s.Step p turn t) ∧ ¬ s.Overtaken id) s t) :
    ∃ o', t.Shows (sightings requests id fun _ => True) (.idle, .blind) o' ∧
      Observed requests id o' := by
  induction run with
  | refl => exact ⟨o, shows, first⟩
  | @tail middle last before step ih =>
      obtain ⟨⟨turn, smooth, step⟩, clear⟩ := step
      obtain ⟨o₁, shown, observed⟩ := ih
      have reached : s.Reaches p Turn.Smooth middle :=
        Relation.ReflTransGen.mono (fun _ _ => And.left) _ _ before
      obtain ⟨o₂, shownNext, move⟩ := step.move
        (fun i => flow_sighted p (requests i) (on i)) shown
        fun i call value stores answers =>
          show Expects id (fun _ => True) call value from
            Stores.answer_expects (fun _ _ => trivial) answers
      exact ⟨o₂, shownNext, move.observed smooth captures reversals observed
        (observed.found shown reversals (reached.ne_dropped whole) clear)⟩

end

/-- A run passes through a state, or avoids it in all of its steps. -/
theorem passes_or_avoids {α : Type} {r : α → α → Prop} {a b : α} (stops : α → Prop)
    (run : Relation.ReflTransGen r a b) :
    (∃ m, Relation.ReflTransGen r a m ∧ Relation.ReflTransGen r m b ∧ stops m) ∨
      Relation.ReflTransGen (fun x y => r x y ∧ ¬ stops x) a b := by
  induction run with
  | refl => exact Or.inr .refl
  | @tail middle last before step ih =>
      rcases ih with ⟨m, reaches, leads, stopped⟩ | avoids
      · exact Or.inl ⟨m, reaches, leads.tail step, stopped⟩
      · by_cases stopped : stops middle
        · exact Or.inl ⟨middle, before, .single step, stopped⟩
        · exact Or.inr (avoids.tail ⟨step, stopped⟩)

/-- When no request is under way, a final capture stands beside a reversal that succeeded only if
at some moment a reversal that had found no final capture was about to see one in the summary. -/
theorem final_capture_overtakes_reversal (p : Processor) (stores : Stores) (id : Uuid)
    (uncaptured : stores.captures.ofAuthorization id = [])
    (unreversed : stores.reversals.ofAuthorization id = [])
    (on : ∀ i, (requests i).On id) (captures : DistinctIds Request.captureId? requests)
    (reversals : DistinctIds Request.reversalId? requests) (t : Traffic requests)
    (reaches : (Traffic.start requests stores).Reaches p Turn.Smooth t)
    (rests : ∀ i, (t.stage i).Rests)
    (final : ∃ c ∈ t.stores.captures.ofAuthorization id, c.status ≠ .failed ∧ c.isFinal = true)
    (reversed : t.stores.reversals.reversed id = true) :
    ∃ m : Traffic requests, (Traffic.start requests stores).Reaches p Turn.Smooth m ∧
      m.Reaches p Turn.Smooth t ∧ m.Overtaken id := by
  rcases passes_or_avoids (Traffic.Overtaken · id) reaches with overtaken | avoids
  · exact overtaken
  · exfalso
    have first : Observed requests id
        (⟨stores, [], fun _ => (.idle, .blind)⟩ : Overview ι (Phase × Sight)) := by
      refine ⟨?_, ?_, ?_, fun i => watchful_first (requests i)⟩
      · rw [Overview.ledger, Overview.phases, unreversed]
        exact ⟨.nil requests, .nil requests⟩
      · rw [Overview.ledger, Overview.phases, uncaptured]
        exact .nil requests 28
      · intro _ c member
        rw [Overview.ledger, Overview.phases, uncaptured] at member
        cases member
    obtain ⟨o, shows, observed⟩ := Traffic.Shows.observed on captures reversals
      (by simp [Traffic.start]) (Traffic.start_shows stores) first avoids
    have whole := reaches.ne_dropped (by simp [Traffic.start])
    obtain ⟨c, stored, stands, isFinal⟩ := final
    rw [← shows.phases.ledger_captures] at stored
    rw [ReversalStore.reversed, ← shows.phases.ledger_reversals, List.any_eq_true] at reversed
    obtain ⟨row, member, succeeded⟩ := reversed
    have committed : Committed (fun _ => True) (o.phases.ledger id).reversals
        (o.phases.ledger id).phase :=
      .succeeded row member (beq_iff_eq.mp succeeded) trivial
    obtain ⟨i, inDoubt, isBalance, _⟩ := observed.isSealed committed c stored stands isFinal
    have settled := shows.phases.settled i (rests i) (whole i)
    rw [Overview.ledger_phase, settled] at isBalance
    cases isBalance

/-! ## A run -/

namespace Sample

def closing : Bool → Request
  | false => .capture "psp" ⟨.ofNat 2, .ofNat 1, four, true, .created, .ofSeconds 0⟩
  | true => .reverse "psp" (.ofId (.ofNat 3) (.ofNat 1) (.ofSeconds 0))

/-- The final capture of four euros is stored after the reversal looked for one and before it sees
the summary. -/
def overtaking : List (Act Bool) :=
  .start true :: .start false :: List.replicate 4 (.answer true) ++
    List.replicate 6 (.answer false) ++ List.replicate 3 (.answer true) ++
    [.exchange true approval (.ok ()), .answer true]

def overtaken : Traffic closing := (Traffic.start closing stores).play processor overtaking

theorem closing_on (i : Bool) : (closing i).On (.ofNat 1) := by
  cases i <;> rfl

theorem closing_captures : DistinctIds Request.captureId? closing := by
  intro i j captureId isLeft isRight
  cases i with
  | true => cases isLeft
  | false =>
      cases j with
      | true => cases isRight
      | false => rfl

theorem closing_reversals : DistinctIds Request.reversalId? closing := by
  intro i j reversalId isLeft isRight
  cases i with
  | false => cases isLeft
  | true =>
      cases j with
      | false => cases isRight
      | true => rfl

theorem overtaken_reaches :
    (Traffic.start closing stores).Reaches processor Turn.Smooth overtaken :=
  Traffic.play_reaches _ _ _ _ (by simp [overtaking, Act.turn, Turn.Smooth, List.replicate])

theorem overtaken_rests (i : Bool) : (overtaken.stage i).Rests := by
  cases i <;> exact True.intro

end Sample

theorem final_capture_overtakes_reversal_between :
    ∃ m, (Traffic.start Sample.closing Sample.stores).Reaches Sample.processor Turn.Smooth m ∧
      m.Reaches Sample.processor Turn.Smooth Sample.overtaken ∧ m.Overtaken (.ofNat 1) :=
  final_capture_overtakes_reversal Sample.processor Sample.stores (.ofNat 1) (by decide) (by decide)
    Sample.closing_on Sample.closing_captures Sample.closing_reversals Sample.overtaken
    Sample.overtaken_reaches Sample.overtaken_rests (by decide) (by decide)

/-- Requests that nothing disturbs can leave a final capture beside a reversal that succeeded. -/
theorem final_capture_and_reversal_stand :
    ∃ t : Traffic Sample.closing,
      (Traffic.start Sample.closing Sample.stores).Reaches Sample.processor Turn.Smooth t ∧
        (∀ i, (Sample.closing i).On (.ofNat 1)) ∧
        DistinctIds Request.captureId? Sample.closing ∧
        DistinctIds Request.reversalId? Sample.closing ∧ (∀ i, (t.stage i).Rests) ∧
        (∃ c ∈ t.stores.captures.ofAuthorization (.ofNat 1),
          c.status ≠ .failed ∧ c.isFinal = true) ∧
        t.stores.reversals.reversed (.ofNat 1) = true :=
  ⟨Sample.overtaken, Sample.overtaken_reaches, Sample.closing_on, Sample.closing_captures,
    Sample.closing_reversals, Sample.overtaken_rests, by decide, by decide⟩

end CardPayments
