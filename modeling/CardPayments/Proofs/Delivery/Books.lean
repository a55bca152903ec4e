import CardPayments.Proofs.Delivery.Phase
import Mathlib.Data.List.Forall2
import Mathlib.Data.List.Nodup

/-! # Books of deliveries

What is stored and published, and how far each request has come.  Every turn of traffic in which
only the publisher may fail is a step of its books, and the books stay in order: each row has one
request that stands for it, and the events are those of the requests that have published, one
each. -/
set_option autoImplicit false

namespace CardPayments

def Stores.captureRows (s : Stores) : List CaptureRow :=
  s.captures.captures.map .ofAuthorization ++ s.captures.refundCaptures.map .ofRefund

namespace Delivery

/-- Only a failure of the publisher is a reason to leave a stored row without its event. -/
def Phase.Excused (fails : PaymentError → Prop) : Phase → Prop
  | .unpublished _ e => fails e
  | _ => True

def Phase.Published : Phase → Prop
  | .published _ => True
  | _ => False

theorem Wanted.of {q : Request} {row : CaptureRow} (wanted : Wanted q row) : row.Of q := by
  cases row with
  | ofAuthorization row =>
      obtain ⟨psp, c, rfl, same⟩ := wanted
      rw [same]
      rfl
  | ofRefund row =>
      obtain ⟨psp, c, rfl, same⟩ := wanted
      rw [same]
      rfl

structure Books (ι : Type) where
  rows : List CaptureRow
  published : List Publication
  phase : ι → Phase

namespace Books

variable {ι : Type} [DecidableEq ι] (requests : ι → Request) (fails : ι → PaymentError → Prop)
  (announces : CaptureRow → Publication → Prop)

inductive Step (b : Books ι) : Books ι → Prop
  | still : Step b b
  | store (i : ι) (row : CaptureRow) (rows : List CaptureRow) (after : Phase)
      (idle : b.phase i = .idle) (wanted : Wanted (requests i) row)
      (stored : rows.Perm (row :: b.rows)) (enters : after.row? = some row)
      (silent : ¬ after.Published) (excused : after.Excused (fails i)) :
      Step b { b with rows := rows, phase := Function.update b.phase i after }
  | turn (i : ι) (row : CaptureRow) (after : Phase) (has : (b.phase i).row? = some row)
      (keeps : after.row? = some row) (before : ¬ (b.phase i).Published)
      (silent : ¬ after.Published) (excused : after.Excused (fails i)) :
      Step b { b with phase := Function.update b.phase i after }
  | withdraw (i : ι) (c d : Capture) (rest rows : List CaptureRow)
      (withdraws : b.phase i = .withdrawing c) (named : d.id = c.id)
      (before : b.rows.Perm (.ofAuthorization d :: rest))
      (after : rows.Perm (.ofAuthorization { d with status := .failed } :: rest)) :
      Step b { b with rows := rows, phase := Function.update b.phase i .withdrawn }
  | missing (i : ι) (c : Capture) (withdraws : b.phase i = .withdrawing c)
      (missing : .ofAuthorization c ∉ b.rows) :
      Step b { b with phase := Function.update b.phase i .withdrawn }
  | publish (i : ι) (row : CaptureRow) (event : Publication)
      (publishing : b.phase i = .publishing row) (tells : announces row event) :
      Step b { b with
        published := b.published ++ [event]
        phase := Function.update b.phase i (.published row) }

/-- The books of requests that started when `before` had been published. -/
structure Sound (before : List Publication) (rows : List CaptureRow) (published : List Publication)
    (phase : ι → Phase) : Prop where
  apart : (rows.map CaptureRow.key).Nodup
  owned : ∀ row ∈ rows, ∃ i, row.Of (requests i) ∧ phase i ≠ .idle ∧
    (row.status = .failed ∨ (phase i).row? = some row)
  held : ∀ i row, (phase i).row? = some row → row ∈ rows ∧ Wanted (requests i) row
  excused : ∀ i, (phase i).Excused (fails i)
  events : ∃ (order : List ι) (events : List Publication), published = before ++ events ∧
    order.Nodup ∧ (∀ i, i ∈ order ↔ (phase i).Published) ∧
    List.Forall₂ (fun i event => ∃ row, phase i = .published row ∧ announces row event) order events

variable {requests fails announces} {before published : List Publication} {rows : List CaptureRow}
  {phase : ι → Phase} {i : ι}

omit [DecidableEq ι] in
/-- No two requests bring captures with one key. -/
theorem unique_of_key (distinct : DistinctIds Request.captureId? requests)
    (distinctRefunds : DistinctIds Request.refundCaptureId? requests) {i j : ι}
    {row other : CaptureRow} (own : row.Of (requests i)) (others : other.Of (requests j))
    (same : row.key = other.key) : i = j := by
  cases row with
  | ofAuthorization c =>
      cases other with
      | ofRefund d => cases same
      | ofAuthorization d =>
          have ids : c.id = d.id := Sum.inl.inj same
          refine distinct i j c.id ?_ ?_
          · generalize requests i = q at own
            cases q <;> first | exact own.elim | (rw [own]; rfl)
          · rw [ids]
            generalize requests j = q at others
            cases q <;> first | exact others.elim | (rw [others]; rfl)
  | ofRefund c =>
      cases other with
      | ofAuthorization d => cases same
      | ofRefund d =>
          have ids : c.id = d.id := Sum.inr.inj same
          refine distinctRefunds i j c.id ?_ ?_
          · generalize requests i = q at own
            cases q <;> first | exact own.elim | (rw [own]; rfl)
          · rw [ids]
            generalize requests j = q at others
            cases q <;> first | exact others.elim | (rw [others]; rfl)

namespace Sound

/-- What was published stays in order while no request publishes. -/
theorem events_update (sound : Sound requests fails announces before rows published phase)
    {after : Phase} (quiet : ¬ (phase i).Published) (silent : ¬ after.Published) :
    ∃ (order : List ι) (events : List Publication), published = before ++ events ∧
      order.Nodup ∧ (∀ j, j ∈ order ↔ (Function.update phase i after j).Published) ∧
      List.Forall₂ (fun j event => ∃ row, Function.update phase i after j = .published row ∧
        announces row event) order events := by
  obtain ⟨order, events, published, once, ordered, told⟩ := sound.events
  have other (j : ι) (member : j ∈ order) : j ≠ i := by
    intro same
    exact quiet (same ▸ (ordered j).mp member)
  refine ⟨order, events, published, once, fun j => ?_, ?_⟩
  · by_cases same : j = i
    · subst same
      rw [Function.update_self]
      exact ⟨fun member => absurd rfl (other j member), fun publishes => absurd publishes silent⟩
    · rw [Function.update_of_ne same]
      exact ordered j
  · refine ((List.forall₂_and_left _ _).mpr ⟨other, told⟩).imp fun j event told => ?_
    rw [Function.update_of_ne told.1]
    exact told.2

theorem excused_update (sound : Sound requests fails announces before rows published phase) (i : ι)
    {after : Phase} (excused : after.Excused (fails i)) (j : ι) :
    (Function.update phase i after j).Excused (fails j) := by
  by_cases same : j = i
  · subst same
    rwa [Function.update_self]
  · rw [Function.update_of_ne same]
    exact sound.excused j

theorem store (sound : Sound requests fails announces before rows published phase)
    (distinct : DistinctIds Request.captureId? requests)
    (distinctRefunds : DistinctIds Request.refundCaptureId? requests) {row : CaptureRow}
    {stored : List CaptureRow} {after : Phase} (idle : phase i = .idle)
    (wanted : Wanted (requests i) row) (joins : stored.Perm (row :: rows))
    (enters : after.row? = some row) (silent : ¬ after.Published)
    (excused : after.Excused (fails i)) :
    Sound requests fails announces before stored published (Function.update phase i after) where
  apart := by
    rw [(joins.map CaptureRow.key).nodup_iff, List.map_cons, List.nodup_cons]
    refine ⟨fun member => ?_, sound.apart⟩
    obtain ⟨other, isStored, same⟩ := List.mem_map.mp member
    obtain ⟨j, owns, active, _⟩ := sound.owned other isStored
    have isSame := unique_of_key distinct distinctRefunds owns wanted.of same
    exact active (isSame ▸ idle)
  owned := by
    intro other member
    rcases List.mem_cons.mp (joins.mem_iff.mp member) with rfl | old
    · refine ⟨i, wanted.of, ?_, Or.inr ?_⟩
      · rw [Function.update_self]
        intro isIdle
        rw [isIdle] at enters
        cases enters
      · rw [Function.update_self, enters]
    · obtain ⟨j, owns, active, kept⟩ := sound.owned other old
      have differs : j ≠ i := fun same => active (same ▸ idle)
      exact ⟨j, owns, by rwa [Function.update_of_ne differs],
        by rwa [Function.update_of_ne differs]⟩
  held := by
    intro j other has
    by_cases same : j = i
    · subst same
      rw [Function.update_self, enters] at has
      cases has
      exact ⟨joins.mem_iff.mpr (List.mem_cons_self ..), wanted⟩
    · rw [Function.update_of_ne same] at has
      obtain ⟨member, wants⟩ := sound.held j other has
      exact ⟨joins.mem_iff.mpr (List.mem_cons_of_mem _ member), wants⟩
  excused := sound.excused_update i excused
  events := sound.events_update (by rw [idle]; exact id) silent

theorem turn (sound : Sound requests fails announces before rows published phase) {row : CaptureRow}
    {after : Phase}
    (has : (phase i).row? = some row) (keeps : after.row? = some row)
    (quiet : ¬ (phase i).Published) (silent : ¬ after.Published)
    (excused : after.Excused (fails i)) :
    Sound requests fails announces before rows published (Function.update phase i after) where
  apart := sound.apart
  owned := by
    intro other member
    obtain ⟨j, owns, active, kept⟩ := sound.owned other member
    refine ⟨j, owns, ?_⟩
    by_cases same : j = i
    · subst same
      rw [Function.update_self, keeps, ← has]
      refine ⟨fun isIdle => ?_, kept⟩
      rw [isIdle] at keeps
      cases keeps
    · rw [Function.update_of_ne same]
      exact ⟨active, kept⟩
  held := by
    intro j other hasOther
    by_cases same : j = i
    · subst same
      rw [Function.update_self, keeps, ← has] at hasOther
      exact sound.held j other hasOther
    · rw [Function.update_of_ne same] at hasOther
      exact sound.held j other hasOther
  excused := sound.excused_update i excused
  events := sound.events_update quiet silent

theorem withdraw (sound : Sound requests fails announces before rows published phase)
    (distinct : DistinctIds Request.captureId? requests)
    (distinctRefunds : DistinctIds Request.refundCaptureId? requests) {c d : Capture}
    {rest left : List CaptureRow} (withdraws : phase i = .withdrawing c) (named : d.id = c.id)
    (split : rows.Perm (.ofAuthorization d :: rest))
    (changed : left.Perm (.ofAuthorization { d with status := .failed } :: rest)) :
    Sound requests fails announces before left published (Function.update phase i .withdrawn) := by
  have has : (phase i).row? = some (.ofAuthorization c) := by
    rw [withdraws]
    rfl
  obtain ⟨member, wanted⟩ := sound.held i _ has
  have apart := sound.apart
  rw [(split.map CaptureRow.key).nodup_iff, List.map_cons, List.nodup_cons] at apart
  -- the row that was changed is the one the request had stored
  have isOwn : d = c := by
    rcases List.mem_cons.mp (split.mem_iff.mp member) with same | other
    · cases same
      rfl
    · refine absurd (List.mem_map.mpr ⟨_, other, ?_⟩) apart.1
      exact congrArg Sum.inl named.symm
  subst isOwn
  refine ⟨?_, ?_, ?_, sound.excused_update i trivial, ?_⟩
  · rw [(changed.map CaptureRow.key).nodup_iff, List.map_cons, List.nodup_cons]
    exact apart
  · intro other inRows
    rcases List.mem_cons.mp (changed.mem_iff.mp inRows) with rfl | old
    · refine ⟨i, ?_, ?_, Or.inl rfl⟩
      · obtain ⟨psp, asked, isRequest, same⟩ := wanted
        rw [isRequest, same]
        rfl
      · rw [Function.update_self]
        exact nofun
    · obtain ⟨j, owns, active, kept⟩ := sound.owned other
        (split.mem_iff.mpr (List.mem_cons_of_mem _ old))
      refine ⟨j, owns, ?_⟩
      by_cases same : j = i
      · subst same
        have isSame : (CaptureRow.ofAuthorization d).key ∈ rest.map CaptureRow.key := by
          refine List.mem_map.mpr ⟨other, old, ?_⟩
          have wants := wanted.of
          generalize requests j = q at owns wants
          cases q with
          | capture psp asked =>
              cases other with
              | ofAuthorization e =>
                  exact congrArg Sum.inl ((congrArg Capture.id owns).trans
                    (congrArg Capture.id wants).symm)
              | ofRefund e => exact owns.elim
          | _ => exact wants.elim
        exact absurd isSame apart.1
      · rw [Function.update_of_ne same]
        exact ⟨active, kept⟩
  · intro j other hasOther
    by_cases same : j = i
    · subst same
      rw [Function.update_self] at hasOther
      cases hasOther
    · rw [Function.update_of_ne same] at hasOther
      obtain ⟨isStored, wants⟩ := sound.held j other hasOther
      refine ⟨?_, wants⟩
      rcases List.mem_cons.mp (split.mem_iff.mp isStored) with rfl | old
      · exact absurd (unique_of_key distinct distinctRefunds wants.of wanted.of rfl) same
      · exact changed.mem_iff.mpr (List.mem_cons_of_mem _ old)
  · exact sound.events_update (by rw [withdraws]; exact id) id

theorem publish (sound : Sound requests fails announces before rows published phase)
    {row : CaptureRow} {event : Publication} (publishing : phase i = .publishing row)
    (tells : announces row event) :
    Sound requests fails announces before rows (published ++ [event])
      (Function.update phase i (.published row)) where
  apart := sound.apart
  owned := by
    intro other member
    obtain ⟨j, owns, active, kept⟩ := sound.owned other member
    refine ⟨j, owns, ?_⟩
    by_cases same : j = i
    · subst same
      rw [publishing] at kept
      rw [Function.update_self]
      exact ⟨nofun, kept⟩
    · rw [Function.update_of_ne same]
      exact ⟨active, kept⟩
  held := by
    intro j other has
    by_cases same : j = i
    · subst same
      refine sound.held j other ?_
      rw [Function.update_self] at has
      rwa [publishing]
    · rw [Function.update_of_ne same] at has
      exact sound.held j other has
  excused := sound.excused_update i trivial
  events := by
    obtain ⟨order, events, published, once, ordered, told⟩ := sound.events
    have new : i ∉ order := by
      intro member
      have publishes := (ordered i).mp member
      rw [publishing] at publishes
      exact publishes
    refine ⟨order ++ [i], events ++ [event], ?_, ?_, fun j => ?_, ?_⟩
    · exact (congrArg (· ++ [event]) published).trans (List.append_assoc ..)
    · exact List.nodup_append.mpr ⟨once, List.nodup_singleton i, fun j member k isLast same => new
        (List.mem_singleton.mp isLast ▸ same ▸ member)⟩
    · by_cases same : j = i
      · subst same
        rw [Function.update_self]
        exact ⟨fun _ => trivial, fun _ => by simp⟩
      · rw [Function.update_of_ne same, List.mem_append, List.mem_singleton, ordered j]
        exact ⟨fun either => either.resolve_right same, Or.inl⟩
    · have other (j : ι) (member : j ∈ order) : j ≠ i := fun same => new (same ▸ member)
      refine List.rel_append
        (((List.forall₂_and_left _ _).mpr ⟨other, told⟩).imp fun j event told => ?_)
        (.cons ⟨row, Function.update_self .., tells⟩ .nil)
      rw [Function.update_of_ne told.1]
      exact told.2

end Sound

/-- Every step keeps the books in order. -/
theorem Step.sound {b b' : Books ι} (distinct : DistinctIds Request.captureId? requests)
    (distinctRefunds : DistinctIds Request.refundCaptureId? requests)
    (step : b.Step requests fails announces b')
    (sound : Sound requests fails announces before b.rows b.published b.phase) :
    Sound requests fails announces before b'.rows b'.published b'.phase := by
  cases step with
  | still => exact sound
  | store i row rows after idle wanted stored enters silent excused =>
      exact sound.store distinct distinctRefunds idle wanted stored enters silent excused
  | turn i row after has keeps quiet silent excused =>
      exact sound.turn has keeps quiet silent excused
  | withdraw i c d rest rows withdraws named split changed =>
      exact sound.withdraw distinct distinctRefunds withdraws named split changed
  | missing i c withdraws missing =>
      refine absurd (sound.held i (.ofAuthorization c) ?_).1 missing
      rw [withdraws]
      rfl
  | publish i row event publishing tells => exact sound.publish publishing tells

end Books
end Delivery
end CardPayments
