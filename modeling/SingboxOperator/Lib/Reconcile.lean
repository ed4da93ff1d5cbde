import Mathlib.Data.List.Basic
import Mathlib.Logic.Function.Basic
import SingboxOperator.Lib.Runs
/-!
# Level-triggered controllers

A controller keeps what is stored for a key in line with a world that others
change. A change enqueues keys. A run for a key takes it from the queue, reads
the world bit by bit while the world goes on changing, writes, and is over; a
run that fails is queued again.

An `Aim` says when the stored result of a key is right, and when what a run has
read so far will make it right. A controller whose transitions are those of
`Step` tracks every key: it is queued, or its run is on course, or its result
is right. What has to be shown of a controller is that a change which does
not enqueue a key keeps both for it.
-/

namespace SingboxOperator.Lib

variable {σ κ ρ α : Type}

/-- The world, the keys that wait, and for each key where its run is. -/
structure Controller (σ κ ρ : Type) where
  world : σ
  queue : List κ
  work : κ → Option ρ

structure Aim (σ κ ρ : Type) where
  Settled : σ → κ → Prop
  OnCourse : σ → κ → ρ → Prop

/-- Between the two worlds nothing has changed for the key. -/
structure Aim.Keeps (aim : Aim σ κ ρ) (w w' : σ) (k : κ) : Prop where
  settled : aim.Settled w k → aim.Settled w' k
  onCourse : ∀ r, aim.OnCourse w k r → aim.OnCourse w' k r

theorem Aim.Keeps.refl (aim : Aim σ κ ρ) (w : σ) (k : κ) : aim.Keeps w w k :=
  ⟨id, fun _ => id⟩

namespace Controller
variable [DecidableEq κ] {aim : Aim σ κ ρ} {s s' : Controller σ κ ρ}

/-- Runs for different keys may go on at the same time, and a key may be queued
again while its run goes on. -/
inductive Step (aim : Aim σ κ ρ) (s : Controller σ κ ρ) : Controller σ κ ρ → Prop
  | change {w : σ} {keys : List κ} (h : ∀ k, k ∉ keys → aim.Keeps s.world w k) :
      Step aim s { s with world := w, queue := s.queue ∪ keys }
  | start {k : κ} {r : ρ} (h : aim.OnCourse s.world k r) :
      Step aim s { s with queue := s.queue.filter (· ≠ k), work := Function.update s.work k (some r) }
  | skip {k : κ} (hidle : s.work k = none) (h : aim.Settled s.world k) :
      Step aim s { s with queue := s.queue.filter (· ≠ k) }
  | read {k : κ} {r r' : ρ} (hw : s.work k = some r) (h : aim.OnCourse s.world k r → aim.OnCourse s.world k r') :
      Step aim s { s with work := Function.update s.work k (some r') }
  | write {k : κ} {r r' : ρ} {w : σ} {keys : List κ} (hw : s.work k = some r)
      (h : aim.OnCourse s.world k r → k ∈ keys ∨ aim.OnCourse w k r')
      (hothers : ∀ k', k' ≠ k → k' ∉ keys → aim.Keeps s.world w k') :
      Step aim s { world := w, queue := s.queue ∪ keys, work := Function.update s.work k (some r') }
  | finish {k : κ} {r : ρ} (hw : s.work k = some r) (h : aim.OnCourse s.world k r → aim.Settled s.world k) :
      Step aim s { s with work := Function.update s.work k none }
  | retry {k : κ} : Step aim s { s with queue := s.queue ∪ [k], work := Function.update s.work k none }

/-- No key is out of line without the controller being about to notice. -/
inductive TracksKey (aim : Aim σ κ ρ) (s : Controller σ κ ρ) (k : κ) : Prop
  | queued (h : k ∈ s.queue)
  | running {r : ρ} (hw : s.work k = some r) (h : aim.OnCourse s.world k r)
  | settled (hidle : s.work k = none) (h : aim.Settled s.world k)

def Tracked (aim : Aim σ κ ρ) (s : Controller σ κ ρ) : Prop :=
  ∀ k, s.TracksKey aim k

omit [DecidableEq κ] in
theorem Tracked.settled (h : s.Tracked aim) {k : κ} (hq : k ∉ s.queue) (hidle : s.work k = none) :
    aim.Settled s.world k := by
  cases h k with
  | queued hk => exact absurd hk hq
  | running hw _ => simp [hidle] at hw
  | settled _ hsettled => exact hsettled

omit [DecidableEq κ] in
/-- Keys may be queued that need not be. -/
theorem Tracked.mono (h : s.Tracked aim) (hworld : s'.world = s.world) (hwork : s'.work = s.work)
    (hqueue : s.queue ⊆ s'.queue) : s'.Tracked aim := by
  intro k
  cases h k with
  | queued hk => exact .queued (hqueue hk)
  | running hw hcourse => exact .running (hwork ▸ hw) (hworld ▸ hcourse)
  | settled hidle hsettled => exact .settled (hwork ▸ hidle) (hworld ▸ hsettled)

namespace TracksKey
variable {k : κ} {r : ρ}

omit [DecidableEq κ] in
/-- What becomes of a key whose own run does not move. -/
theorem of_change (h : s.TracksKey aim k) (hqueue : k ∈ s.queue → k ∈ s'.queue) (hwork : s'.work k = s.work k)
    (hsettled : k ∉ s'.queue → s.work k = none → aim.Settled s.world k → aim.Settled s'.world k)
    (hcourse : k ∉ s'.queue → ∀ r, s.work k = some r → aim.OnCourse s.world k r → aim.OnCourse s'.world k r) :
    s'.TracksKey aim k := by
  by_cases hq : k ∈ s'.queue
  · exact .queued hq
  cases h with
  | queued h => exact absurd (hqueue h) hq
  | running hw h => exact .running (hwork.trans hw) (hcourse hq _ hw h)
  | settled hidle h => exact .settled (hwork.trans hidle) (hsettled hq hidle h)

omit [DecidableEq κ] in
theorem of_work_eq (h : s.TracksKey aim k) (hqueue : k ∈ s.queue → k ∈ s'.queue) (hwork : s'.work k = s.work k)
    (hkeeps : k ∉ s'.queue → aim.Keeps s.world s'.world k) : s'.TracksKey aim k :=
  h.of_change hqueue hwork (fun hq _ => (hkeeps hq).settled) fun hq r _ => (hkeeps hq).onCourse r

omit [DecidableEq κ] in
/-- A key that does not wait has a run that is on course, if it has a run. -/
theorem onCourse (h : s.TracksKey aim k) (hw : s.work k = some r) (hq : k ∉ s.queue) :
    aim.OnCourse s.world k r := by
  cases h with
  | queued h => exact absurd h hq
  | running hw' h =>
    obtain rfl := Option.some.inj (hw'.symm.trans hw)
    exact h
  | settled hidle _ => simp [hidle] at hw

end TracksKey

theorem Step.tracked (h : Step aim s s') (ht : s.Tracked aim) : s'.Tracked aim := by
  intro k
  cases h with
  | @change w keys h =>
    refine (ht k).of_work_eq (fun hq => List.mem_union_iff.2 (.inl hq)) rfl fun hq => ?_
    exact h k fun hk => hq (List.mem_union_iff.2 (.inr hk))
  | @start k' r h =>
    by_cases hne : k = k'
    · subst hne
      exact .running (Function.update_self ..) h
    · refine (ht k).of_work_eq (fun hq => ?_) (Function.update_of_ne hne ..) fun _ => .refl ..
      exact List.mem_filter.2 ⟨hq, by simpa using hne⟩
  | @skip k' hidle h =>
    by_cases hne : k = k'
    · subst hne
      exact .settled hidle h
    · refine (ht k).of_work_eq (fun hq => ?_) rfl fun _ => .refl ..
      exact List.mem_filter.2 ⟨hq, by simpa using hne⟩
  | @read k' r r' hw h =>
    by_cases hne : k = k'
    · subst hne
      by_cases hq : k ∈ s.queue
      · exact .queued hq
      · exact .running (Function.update_self ..) (h ((ht k).onCourse hw hq))
    · exact (ht k).of_work_eq id (Function.update_of_ne hne ..) fun _ => .refl ..
  | @write k' r r' w keys hw h hothers =>
    by_cases hne : k = k'
    · subst hne
      -- a key that waits goes on waiting, so only a run that is on course matters
      by_cases hq : k ∈ s.queue
      · exact .queued (List.mem_union_iff.2 (.inl hq))
      rcases h ((ht k).onCourse hw hq) with hk | hcourse
      · exact .queued (List.mem_union_iff.2 (.inr hk))
      · exact .running (Function.update_self ..) hcourse
    · refine (ht k).of_work_eq (fun hq => List.mem_union_iff.2 (.inl hq)) (Function.update_of_ne hne ..) fun hq => ?_
      exact hothers k hne fun hk => hq (List.mem_union_iff.2 (.inr hk))
  | @finish k' r hw h =>
    by_cases hne : k = k'
    · subst hne
      by_cases hq : k ∈ s.queue
      · exact .queued hq
      · exact .settled (Function.update_self ..) (h ((ht k).onCourse hw hq))
    · exact (ht k).of_work_eq id (Function.update_of_ne hne ..) fun _ => .refl ..
  | @retry k' =>
    by_cases hne : k = k'
    · subst hne
      exact .queued (List.mem_union_iff.2 (.inr (List.mem_singleton_self _)))
    · exact (ht k).of_work_eq (fun hq => List.mem_union_iff.2 (.inl hq)) (Function.update_of_ne hne ..)
        fun _ => .refl ..

/-- A controller all of whose transitions are steps towards the aim tracks every key, in every state of a run. -/
theorem tracked_of_run {step : Controller σ κ ρ → α → Controller σ κ ρ → Prop} {P : Controller σ κ ρ → α → Prop}
    {s₀ : Controller σ κ ρ} {trace : List (Controller σ κ ρ × α × Controller σ κ ρ)} (h : Run step s₀ trace s)
    (hinit : s₀.Tracked aim) (hstep : ∀ s a s', step s a s' → P s a → Step aim s s')
    (hP : ∀ x ∈ trace, P x.1 x.2.1) : s.Tracked aim :=
  (h.invariant hinit (fun s a s' hs hp => (hstep s a s' hs hp).tracked) hP).1

end Controller

/-! ## One object for each key

The usual controller: each object of the world has its own key, and nothing is
asked of a key without an object. -/

section
variable {β : Type} {objects : σ → List β} {key : β → κ} {Current : σ → β → Prop} {Agrees : σ → β → ρ → Prop}

/-- `Current` for the objects whose result is right, `Agrees` for those with which a run agrees in what it has read. -/
def Aim.forEach (objects : σ → List β) (key : β → κ) (Current : σ → β → Prop) (Agrees : σ → β → ρ → Prop) :
    Aim σ κ ρ where
  Settled w k := ∀ x ∈ objects w, key x = k → Current w x
  OnCourse w k r := ∀ x ∈ objects w, key x = k → Agrees w x r

/-- It suffices that the object was there before as far as anything depends on it. -/
theorem Aim.keeps_forEach {w w' : σ} {k : κ}
    (h : ∀ x ∈ objects w', key x = k → ∃ x₀ ∈ objects w, key x₀ = k ∧ (Current w x₀ → Current w' x) ∧
      ∀ r, Agrees w x₀ r → Agrees w' x r) :
    (Aim.forEach objects key Current Agrees).Keeps w w' k where
  settled hs x hx hk := by
    obtain ⟨x₀, hx₀, hk₀, hcurrent, _⟩ := h x hx hk
    exact hcurrent (hs x₀ hx₀ hk₀)
  onCourse r hr x hx hk := by
    obtain ⟨x₀, hx₀, hk₀, _, hagrees⟩ := h x hx hk
    exact hagrees r (hr x₀ hx₀ hk₀)

/-- The controller has just been started: every object is enqueued. -/
structure Controller.Started (objects : σ → List β) (key : β → κ) (s : Controller σ κ ρ) : Prop where
  queue : ∀ x ∈ objects s.world, key x ∈ s.queue
  work : ∀ k, s.work k = none

theorem Controller.Started.tracked {s : Controller σ κ ρ} (h : s.Started objects key) :
    s.Tracked (Aim.forEach objects key Current Agrees) := by
  intro k
  by_cases hk : ∃ x ∈ objects s.world, key x = k
  · obtain ⟨x, hx, rfl⟩ := hk
    exact .queued (h.queue x hx)
  · refine .settled (h.work k) fun x hx hx' => ?_
    exact absurd ⟨x, hx, hx'⟩ hk

end

end SingboxOperator.Lib
