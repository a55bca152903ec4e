import CardPayments.Proofs.Intake.Phase

/-! # The standing of a transaction

What is stored of one transaction, how often its network was asked, and which request still works on
it fit together: nothing is stored and nobody works on it; or one request does, and the row is new;
or nobody does any more, and the row tells how it ended.  Every move keeps this. -/
set_option autoImplicit false

namespace CardPayments.Intake

/-- What the status of a stored transaction says about its response, its scheme data and the number
of messages that were sent for it. -/
structure Sound (x : Transaction) (data : Option SchemeData) (sent : Nat) : Prop where
  approved : x.status = .approved → ∃ r d, x.response = some r ∧ r.code.isApproval = true ∧
    data = some d ∧ d.scheme = x.card.scheme
  declined : x.status = .declined → ∃ r d, x.response = some r ∧ r.code.isApproval = false ∧
    r.code.isFormatError = false ∧ data = some d ∧ d.scheme = x.card.scheme
  failed : x.status = .failed → x.response = none
  fresh : x.status = .new → x.response = none
  riskDeclined : x.status = .riskDeclined → x.response = none ∧ data = none ∧ sent = 0

def timesSent {ι : Type} (exchanges : List (Exchange ι)) (key : Key) : Nat :=
  exchanges.countP fun x => x.message.key? = some key

/-- A row is kept, and changes nothing but its status and response, and those only while it is
new. -/
def Outlives (before after : Dossier) : Prop :=
  ∀ x ∈ before.rows, ∃ y ∈ after.rows,
    y = x.settled y.status y.response ∧ (x.status ≠ .new → y = x)

section

variable {x : Transaction} {data : Option SchemeData} {sent : Nat}

theorem sound_new (fresh : x.status = .new) (unanswered : x.response = none) :
    Sound x data sent where
  approved status := by simp [fresh] at status
  declined status := by simp [fresh] at status
  failed _ := unanswered
  fresh _ := unanswered
  riskDeclined status := by simp [fresh] at status

theorem sound_rejected : Sound (x.settled .riskDeclined none) none 0 where
  approved status := by simp [Transaction.settled] at status
  declined status := by simp [Transaction.settled] at status
  failed status := by simp [Transaction.settled] at status
  fresh status := by simp [Transaction.settled] at status
  riskDeclined _ := ⟨rfl, rfl, rfl⟩

theorem sound_settled {response : Option SchemeResponse} {d : SchemeData}
    (own : d.scheme = x.card.scheme) (wellFormed : Processor.checkFormat response = .ok ()) :
    Sound (x.settled (.ofResponse response) response) (some d) sent := by
  cases response with
  | none =>
      refine ⟨?_, ?_, fun _ => rfl, fun _ => rfl, ?_⟩ <;>
        simp [Transaction.settled, Status.ofResponse]
  | some r =>
      have formed : r.code.isFormatError = false := by
        by_contra formatError
        simp [Processor.checkFormat, formatError] at wellFormed
      cases approval : r.code.isApproval with
      | true =>
          have status : Status.ofResponse (some r) = .approved := by
            simp [Status.ofResponse, ResponseCode.status, approval]
          rw [status]
          refine ⟨fun _ => ⟨r, d, rfl, approval, rfl, own⟩, ?_, ?_, ?_, ?_⟩ <;>
            simp [Transaction.settled]
      | false =>
          have status : Status.ofResponse (some r) = .declined := by
            simp [Status.ofResponse, ResponseCode.status, approval]
          rw [status]
          refine ⟨?_, fun _ => ⟨r, d, rfl, approval, formed, rfl, own⟩, ?_, ?_, ?_⟩ <;>
            simp [Transaction.settled]

end

namespace Outlives

variable {before middle after : Dossier}

theorem refl (d : Dossier) : Outlives d d := fun x stored => ⟨x, stored, rfl, fun _ => rfl⟩

theorem trans (first : Outlives before middle) (second : Outlives middle after) :
    Outlives before after := by
  intro x stored
  obtain ⟨y, kept, same, settled⟩ := first x stored
  obtain ⟨z, keptLater, sameLater, settledLater⟩ := second y kept
  refine ⟨z, keptLater, ?_, fun old => ?_⟩
  · rw [sameLater, same]
    rfl
  · have unchanged := settled old
    rw [unchanged] at settledLater
    exact settledLater old

theorem of_rows {rows : List Transaction} {data data' : Option SchemeData} :
    Outlives ⟨rows, data⟩ ⟨rows, data'⟩ :=
  fun x stored => ⟨x, stored, rfl, fun _ => rfl⟩

theorem of_new {x : Transaction} {data data' : Option SchemeData} (fresh : x.status = .new)
    (status : Status) (response : Option SchemeResponse) :
    Outlives ⟨[x], data⟩ ⟨[x.settled status response], data'⟩ := by
  intro y stored
  obtain rfl := List.mem_singleton.mp stored
  exact ⟨_, List.mem_singleton.mpr rfl, rfl, fun old => absurd fresh old⟩

end Outlives

/-- How far the request that works on a transaction has come. -/
inductive Progress (scheme : Scheme) : Phase → Option SchemeData → Nat → Prop
  | stored (key : Key) : Progress scheme (.stored key scheme) none 0
  | answered (key : Key) (x : Attached)
      (wellFormed : Processor.checkFormat x.response = .ok ()) :
      Progress scheme (.answered key scheme x) none 1
  | recorded (key : Key) (response : Option SchemeResponse) (d : SchemeData)
      (own : d.scheme = scheme) (wellFormed : Processor.checkFormat response = .ok ()) :
      Progress scheme (.recorded key response) (some d) 1

inductive Standing {ι : Type} (key : Key) (phase : ι → Phase) : Dossier → Nat → Prop
  | blank (rests : ∀ i, (phase i).key? ≠ some key) : Standing key phase ⟨[], none⟩ 0
  | opened (i : ι) (x : Transaction) (data : Option SchemeData) (sent : Nat)
      (fresh : x.status = .new) (unanswered : x.response = none)
      (works : (phase i).key? = some key) (alone : ∀ j, (phase j).key? = some key → j = i)
      (progress : Progress x.card.scheme (phase i) data sent) :
      Standing key phase ⟨[x], data⟩ sent
  | closed (x : Transaction) (data : Option SchemeData) (sent : Nat) (sound : Sound x data sent)
      (once : sent ≤ 1) (rests : ∀ i, (phase i).key? ≠ some key) :
      Standing key phase ⟨[x], data⟩ sent

section

variable {ι : Type} {key : Key} {phase : ι → Phase} {d : Dossier} {sent : Nat}

theorem Progress.once {scheme : Scheme} {phase : Phase} {data : Option SchemeData}
    (progress : Progress scheme phase data sent) : sent ≤ 1 := by
  cases progress <;> simp

namespace Standing

/-- A transaction that some request works on is new, and only that request does. -/
theorem working (standing : Standing key phase d sent) {i : ι}
    (works : (phase i).key? = some key) :
    ∃ x data, d = ⟨[x], data⟩ ∧ x.status = .new ∧ x.response = none ∧
      (∀ j, (phase j).key? = some key → j = i) ∧ Progress x.card.scheme (phase i) data sent := by
  cases standing with
  | blank rests => exact absurd works (rests i)
  | opened j x data _ fresh unanswered _ alone progress =>
      obtain rfl := alone i works
      exact ⟨x, data, rfl, fresh, unanswered, alone, progress⟩
  | closed x data _ sound once rests => exact absurd works (rests i)

theorem unknown (standing : Standing key phase d sent) (rows : d.rows = []) :
    d.data = none ∧ sent = 0 ∧ ∀ i, (phase i).key? ≠ some key := by
  cases standing with
  | blank rests => exact ⟨rfl, rfl, rests⟩
  | opened => cases rows
  | closed => cases rows

theorem sound (standing : Standing key phase d sent) {x : Transaction} (stored : x ∈ d.rows) :
    Sound x d.data sent := by
  cases standing with
  | blank => cases stored
  | opened i y data _ fresh unanswered =>
      obtain rfl := List.mem_singleton.mp stored
      exact sound_new fresh unanswered
  | closed y data _ sound =>
      obtain rfl := List.mem_singleton.mp stored
      exact sound

theorem length_le_one (standing : Standing key phase d sent) : d.rows.length ≤ 1 := by
  cases standing <;> simp

theorem once (standing : Standing key phase d sent) : sent ≤ 1 := by
  cases standing with
  | blank => exact Nat.zero_le 1
  | opened i x data _ _ _ _ _ progress => exact progress.once
  | closed x data _ _ once => exact once

variable [DecidableEq ι] {i : ι} {after : Phase}

theorem frame (standing : Standing key phase d sent) (before : (phase i).key? ≠ some key)
    (ends : after.key? ≠ some key) : Standing key (Function.update phase i after) d sent := by
  have key?_eq (j : ι) : (Function.update phase i after j).key? = some key ↔
      (phase j).key? = some key := by
    by_cases same : j = i
    · subst same
      simp [ends, before]
    · rw [Function.update_of_ne same]
  cases standing with
  | blank rests => exact .blank fun j works => rests j ((key?_eq j).mp works)
  | opened j x data _ fresh unanswered works alone progress =>
      have other : j ≠ i := fun same => before (same ▸ works)
      refine .opened j x data _ fresh unanswered ((key?_eq j).mpr works)
        (fun k worksToo => alone k ((key?_eq k).mp worksToo)) ?_
      rwa [Function.update_of_ne other]
  | closed x data _ sound once rests =>
      exact .closed x data _ sound once fun j works => rests j ((key?_eq j).mp works)

theorem rests_update (alone : ∀ j, (phase j).key? = some key → j = i) :
    ∀ j, (Function.update phase i .resting j).key? ≠ some key := by
  intro j works
  by_cases same : j = i
  · subst same
    simp [Phase.key?] at works
  · rw [Function.update_of_ne same] at works
    exact same (alone j works)

/-- The request that worked on a new transaction leaves it, settled or as it is. -/
theorem leave {x : Transaction} {data : Option SchemeData} (sound : Sound x data sent)
    (once : sent ≤ 1) (alone : ∀ j, (phase j).key? = some key → j = i) :
    Standing key (Function.update phase i .resting) ⟨[x], data⟩ sent :=
  .closed x data sent sound once (rests_update alone)

/-- The request goes on with a new transaction, on which no other one works. -/
theorem work {x : Transaction} {data : Option SchemeData} (fresh : x.status = .new)
    (unanswered : x.response = none) (works : after.key? = some key)
    (alone : ∀ j, (phase j).key? = some key → j = i)
    (progress : Progress x.card.scheme after data sent) :
    Standing key (Function.update phase i after) ⟨[x], data⟩ sent := by
  refine .opened i x data sent fresh unanswered ?_ (fun j worksToo => ?_) ?_
  · rwa [Function.update_self]
  · by_cases same : j = i
    · exact same
    · rw [Function.update_of_ne same] at worksToo
      exact alone j worksToo
  · rwa [Function.update_self]

end Standing

/-! ## Calls -/

/-- What a call that was answered so did to the dossiers: nothing, and then it failed if it files
something; or it filed, and then it may have failed nevertheless. -/
inductive Effect {call : Call} (answer : Except PaymentError call.Value)
    (before after : Key → Dossier) : Prop
  | nothing (same : after = before) (failed : call.filing? = none ∨ ∃ e, answer = .error e)
  | filed (key : Key) (filing : Filing) (files : call.filing? = some (key, filing))
      (filed : Dossier.Filed filing (before key) (after key))
      (apart : ∀ other, other ≠ key → after other = before other)

variable [DecidableEq ι] {before after : Key → Dossier} {count count' : Key → Nat} {i : ι}
  {next : Phase}

/-- Only one transaction is touched; the standing of all others stays. -/
theorem Standing.spread (worked : Key) (all : ∀ key, Standing key phase (before key) (count key))
    (apart : ∀ other, other ≠ worked → after other = before other ∧ count' other = count other)
    (was : ∀ key, (phase i).key? = some key → key = worked)
    (ends : ∀ key, next.key? = some key → key = worked)
    (own : Standing worked (Function.update phase i next) (after worked) (count' worked))
    (kept : Outlives (before worked) (after worked)) (key : Key) :
    Standing key (Function.update phase i next) (after key) (count' key) ∧
      Outlives (before key) (after key) := by
  by_cases same : key = worked
  · subst same
    exact ⟨own, kept⟩
  · obtain ⟨sameDossier, sameCount⟩ := apart key same
    rw [sameDossier, sameCount]
    exact ⟨(all key).frame (fun works => same (was key works)) fun works => same (ends key works),
      .refl _⟩

theorem Phase.resting_ends {key worked : Key} (works : Phase.resting.key? = some key) :
    key = worked := by
  cases works

/-- The request touches the transaction that it works on, whose row is still new. -/
theorem Standing.touched (worked : Key)
    (all : ∀ key, Standing key phase (before key) (count key))
    (works : (phase i).key? = some worked)
    (apart : ∀ other, other ≠ worked → after other = before other ∧ count' other = count other)
    (ends : ∀ key, next.key? = some key → key = worked)
    (own : ∀ x data, before worked = ⟨[x], data⟩ → x.status = .new → x.response = none →
      (∀ j, (phase j).key? = some worked → j = i) →
      Progress x.card.scheme (phase i) data (count worked) →
      Standing worked (Function.update phase i next) (after worked) (count' worked) ∧
        Outlives ⟨[x], data⟩ (after worked)) (key : Key) :
    Standing key (Function.update phase i next) (after key) (count' key) ∧
      Outlives (before key) (after key) := by
  obtain ⟨x, data, dossier, fresh, unanswered, alone, progress⟩ := (all worked).working works
  obtain ⟨stands, outlives⟩ := own x data dossier fresh unanswered alone progress
  refine Standing.spread worked all apart (fun key worksToo => ?_) ends stands ?_ key
  · rw [works] at worksToo
    exact (Option.some.inj worksToo).symm
  · rwa [dossier]

theorem filed_settles {x : Transaction} {data : Option SchemeData} {status : Status}
    {response : Option SchemeResponse}
    (filed : Dossier.Filed (.settles status response) ⟨[x], data⟩ d) :
    d = ⟨[x.settled status response], data⟩ := by
  cases filed with
  | settles _ _ _ rows changed => rw [changed.singleton]

theorem filed_records {x : Transaction} {data carried : Option SchemeData} {scheme : Scheme}
    (filed : Dossier.Filed (.records scheme carried) ⟨[x], data⟩ d) :
    ∃ found, found.scheme = scheme ∧ d = ⟨[x], some found⟩ := by
  cases filed with
  | records found => exact ⟨found, rfl, rfl⟩

theorem Standing.opens {worked : Key} {x : Transaction}
    (all : ∀ key, Standing key phase (before key) (count key)) (rested : phase i = .resting)
    (fresh : x.status = .new) (unanswered : x.response = none)
    (filed : Dossier.Filed (.opens x) (before worked) (after worked))
    (apart : ∀ other, other ≠ worked → after other = before other)
    (goes : next = .stored worked x.card.scheme ∨ next = .resting) (key : Key) :
    Standing key (Function.update phase i next) (after key) (count key) ∧
      Outlives (before key) (after key) := by
  generalize opened : after worked = dossier at filed
  cases filed with
  | opens _ _ unknown =>
      obtain ⟨blank, unsent, rests⟩ := (all worked).unknown unknown
      have alone (j : ι) (works : (phase j).key? = some worked) : j = i :=
        absurd works (rests j)
      refine Standing.spread worked all (fun other ne => ⟨apart other ne, rfl⟩)
        (fun key works => ?_) (fun key works => ?_) ?_ ?_ key
      · rw [rested] at works
        cases works
      · obtain rfl | rfl := goes
        · exact (Option.some.inj works).symm
        · cases works
      · rw [opened, blank, unsent]
        obtain rfl | rfl := goes
        · exact work fresh unanswered rfl alone (.stored worked)
        · exact leave (sound_new fresh unanswered) (Nat.zero_le 1) alone
      · intro y stored
        rw [unknown] at stored
        cases stored

/-- A risk rule settles the row before the network is asked. -/
theorem Standing.rejects {worked : Key} {scheme : Scheme}
    (all : ∀ key, Standing key phase (before key) (count key))
    (now : phase i = .stored worked scheme)
    (filed : Dossier.Filed (.settles .riskDeclined none) (before worked) (after worked))
    (apart : ∀ other, other ≠ worked → after other = before other) (key : Key) :
    Standing key (Function.update phase i .resting) (after key) (count key) ∧
      Outlives (before key) (after key) := by
  refine Standing.touched worked all (by rw [now]; rfl) (fun other ne => ⟨apart other ne, rfl⟩)
    (fun _ => Phase.resting_ends)
    (fun x data dossier fresh unanswered alone progress => ?_) key
  rw [dossier] at filed
  rw [filed_settles filed]
  rw [now] at progress
  generalize count worked = sent at progress ⊢
  cases progress
  exact ⟨leave sound_rejected (Nat.zero_le 1) alone, .of_new fresh _ _⟩

/-- The data that the network attached is stored beside the row. -/
theorem Standing.records {worked : Key} {scheme : Scheme} {x : Attached}
    (all : ∀ key, Standing key phase (before key) (count key))
    (now : phase i = .answered worked scheme x)
    (filed : Dossier.Filed (.records scheme x.schemeData) (before worked) (after worked))
    (apart : ∀ other, other ≠ worked → after other = before other)
    (goes : next = .recorded worked x.response ∨ next = .resting) (key : Key) :
    Standing key (Function.update phase i next) (after key) (count key) ∧
      Outlives (before key) (after key) := by
  refine Standing.touched worked all (by rw [now]; rfl) (fun other ne => ⟨apart other ne, rfl⟩)
    (fun key works => ?_) (fun x data dossier fresh unanswered alone progress => ?_) key
  · obtain rfl | rfl := goes
    · exact (Option.some.inj works).symm
    · cases works
  · rw [dossier] at filed
    obtain ⟨d, own, dossierAfter⟩ := filed_records filed
    rw [dossierAfter]
    rw [now] at progress
    generalize count worked = sent at progress ⊢
    cases progress with
    | answered _ _ wellFormed =>
        obtain rfl | rfl := goes
        · exact ⟨work fresh unanswered rfl alone (.recorded worked _ d own wellFormed), .of_rows⟩
        · exact ⟨leave (sound_new fresh unanswered) (Nat.le_refl 1) alone, .of_rows⟩

/-- The row is settled by what the network answered. -/
theorem Standing.settles {worked : Key} {response : Option SchemeResponse}
    (all : ∀ key, Standing key phase (before key) (count key))
    (now : phase i = .recorded worked response)
    (filed : Dossier.Filed (.settles (.ofResponse response) response) (before worked)
      (after worked))
    (apart : ∀ other, other ≠ worked → after other = before other) (key : Key) :
    Standing key (Function.update phase i .resting) (after key) (count key) ∧
      Outlives (before key) (after key) := by
  refine Standing.touched worked all (by rw [now]; rfl) (fun other ne => ⟨apart other ne, rfl⟩)
    (fun _ => Phase.resting_ends)
    (fun x data dossier fresh unanswered alone progress => ?_) key
  rw [dossier] at filed
  rw [filed_settles filed]
  rw [now] at progress
  generalize count worked = sent at progress ⊢
  cases progress with
  | recorded _ _ d own wellFormed =>
      exact ⟨leave (sound_settled own wellFormed) (Nat.le_refl 1) alone, .of_new fresh _ _⟩

/-- The call failed without effect; the request leaves the transaction as it is. -/
theorem Standing.fails {worked : Key}
    (all : ∀ key, Standing key phase (before key) (count key))
    (works : (phase i).key? = some worked) (key : Key) :
    Standing key (Function.update phase i .resting) (before key) (count key) ∧
      Outlives (before key) (before key) := by
  refine Standing.touched worked all works (fun _ _ => ⟨rfl, rfl⟩) (fun _ => Phase.resting_ends)
    (fun x data dossier fresh unanswered alone progress => ?_) key
  rw [dossier]
  exact ⟨leave (sound_new fresh unanswered) progress.once alone, .refl _⟩

theorem Standing.asked {call : Call} {answer : Except PaymentError call.Value}
    (all : ∀ key, Standing key phase (before key) (count key))
    (effect : Effect answer before after) (asks : Asks (phase i) call answer next) (key : Key) :
    Standing key (Function.update phase i next) (after key) (count key) ∧
      Outlives (before key) (after key) := by
  generalize now : phase i = current at asks
  have works {worked : Key} (is : current.key? = some worked) : (phase i).key? = some worked :=
    now ▸ is
  cases effect with
  | nothing same failed =>
      subst same
      -- a call that files something has failed, and no request goes on after that
      cases asks with
      | other =>
          subst now
          rw [Function.update_eq_self]
          exact ⟨all key, .refl _⟩
      | opens _ _ worked x files =>
          obtain none | ⟨e, rfl⟩ := failed
          · simp [files] at none
          · rw [← now, Function.update_eq_self]
            exact ⟨all key, .refl _⟩
      | rejects => exact Standing.fails all (works rfl) key
      | records _ _ worked scheme x files =>
          obtain none | ⟨e, rfl⟩ := failed
          · simp [files] at none
          · exact Standing.fails all (works rfl) key
      | settles => exact Standing.fails all (works rfl) key
  | filed worked filing filesToo filed apart =>
      cases asks with
      | other _ _ _ files => simp [files] at filesToo
      | opens _ _ _ x files fresh unanswered =>
          rw [files, Option.some.injEq, Prod.mk.injEq] at filesToo
          obtain ⟨rfl, rfl⟩ := filesToo
          refine Standing.opens all now fresh unanswered filed apart ?_ key
          cases answer with
          | ok _ => exact Or.inl rfl
          | error _ => exact Or.inr rfl
      | rejects _ _ _ _ files =>
          rw [files, Option.some.injEq, Prod.mk.injEq] at filesToo
          obtain ⟨rfl, rfl⟩ := filesToo
          exact Standing.rejects all now filed apart key
      | records _ _ _ _ x files =>
          rw [files, Option.some.injEq, Prod.mk.injEq] at filesToo
          obtain ⟨rfl, rfl⟩ := filesToo
          refine Standing.records all now filed apart ?_ key
          cases answer with
          | ok _ => exact Or.inl rfl
          | error _ => exact Or.inr rfl
      | settles _ _ _ _ files =>
          rw [files, Option.some.injEq, Prod.mk.injEq] at filesToo
          obtain ⟨rfl, rfl⟩ := filesToo
          exact Standing.settles all now filed apart key

/-! ## Messages -/

theorem Standing.sends {exchanges : List (Exchange ι)} {message : Message} {attached : Attached}
    {outcome : Except PaymentError Unit}
    (all : ∀ key, Standing key phase (before key) (timesSent exchanges key))
    (sends : Sends (phase i) message attached outcome next) (key : Key) :
    Standing key (Function.update phase i next) (before key)
      (timesSent (exchanges ++ [⟨i, message, attached, outcome⟩]) key) := by
  have another (other : Key) (ne : message.key? ≠ some other) :
      timesSent (exchanges ++ [⟨i, message, attached, outcome⟩]) other =
        timesSent exchanges other := by
    simp [timesSent, List.countP_append, ne]
  have once (own : Key) (names : message.key? = some own) :
      timesSent (exchanges ++ [⟨i, message, attached, outcome⟩]) own =
        timesSent exchanges own + 1 := by
    simp [timesSent, List.countP_append, names]
  have others (own : Key) (names : message.key? = some own) (other : Key) (ne : other ≠ own) :
      before other = before other ∧
        timesSent (exchanges ++ [⟨i, message, attached, outcome⟩]) other =
          timesSent exchanges other :=
    ⟨rfl, another other fun same => ne (Option.some.inj (same.symm.trans names))⟩
  generalize now : phase i = current at sends
  have works {own : Key} (is : current.key? = some own) : (phase i).key? = some own := now ▸ is
  cases sends with
  | other _ _ _ _ names =>
      rw [← now, Function.update_eq_self, another key (by simp [names])]
      exact all key
  | answered own scheme _ _ names wellFormed =>
      refine (Standing.touched own all (works rfl) (others own names) (fun key works => ?_)
        (fun x data dossier fresh unanswered alone progress => ?_) key).1
      · exact (Option.some.inj works).symm
      · rw [now] at progress
        rw [once own names, dossier]
        generalize timesSent exchanges own = count at progress ⊢
        cases progress
        exact ⟨work fresh unanswered rfl alone (.answered own attached wellFormed), .refl _⟩
  | failed own scheme _ _ _ names =>
      refine (Standing.touched own all (works rfl) (others own names) (fun _ => Phase.resting_ends)
        (fun x data dossier fresh unanswered alone progress => ?_) key).1
      rw [now] at progress
      rw [once own names, dossier]
      generalize timesSent exchanges own = count at progress ⊢
      cases progress
      exact ⟨leave (sound_new fresh unanswered) (Nat.le_refl 1) alone, .refl _⟩

end
end CardPayments.Intake
