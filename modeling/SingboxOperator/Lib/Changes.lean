import SingboxOperator.Lib.Lists
/-!
# Changes of a store

One object of a keyed list is created, updated or deleted, the others stay as
they are and in their order. What a filter does not let through, and what a
map does not tell apart, is not seen to change.
-/

namespace SingboxOperator.Lib

variable {α β κ : Type}

inductive Change (α : Type)
  | create (x : α)
  | update (old new : α)
  | delete (x : α)

namespace Change

/-- The objects that come with the change. -/
def objects : Change α → List α
  | create x => [x]
  | update old new => [old, new]
  | delete x => [x]

/-- The object as it was, or as it is when there was none. -/
def object : Change α → α
  | create x => x
  | update old _ => old
  | delete x => x

theorem object_mem (ch : Change α) : ch.object ∈ ch.objects := by
  cases ch <;> simp [object, objects]

/-- An update that keeps the key, and a creation or deletion anywhere in the list. -/
inductive Applies (key : α → κ) : Change α → List α → List α → Prop
  | create (x : α) (s t : List α) : Applies key (.create x) (s ++ t) (s ++ x :: t)
  | update (old new : α) (s t : List α) (h : key new = key old) :
      Applies key (.update old new) (s ++ old :: t) (s ++ new :: t)
  | delete (x : α) (s t : List α) : Applies key (.delete x) (s ++ x :: t) (s ++ t)

namespace Applies
variable {key : α → κ} {ch : Change α} {l l' : List α}

theorem key_eq (h : ch.Applies key l l') {x : α} (hx : x ∈ ch.objects) : key x = key ch.object := by
  cases h with
  | create | delete => simp_all [objects, object]
  | update old new s t h =>
    rcases List.mem_pair.1 hx with rfl | rfl
    · rfl
    · exact h

/-- Only the objects of the change come and go. -/
theorem mem_of_mem (h : ch.Applies key l l') {x : α} (hx : x ∈ l') : x ∈ ch.objects ∨ x ∈ l := by
  cases h <;> simp_all [objects] <;> tauto

theorem mem_new (h : ch.Applies key l l') {x : α} (hx : x ∈ l) : x ∈ ch.objects ∨ x ∈ l' := by
  cases h <;> simp_all [objects] <;> tauto

/-- Only the key of an object that is created or deleted comes or goes. -/
theorem key_free_iff (h : ch.Applies key l l') {k : κ} (hne : ∀ x, ch = .create x ∨ ch = .delete x → key x ≠ k) :
    (∀ x ∈ l', key x ≠ k) ↔ ∀ x ∈ l, key x ≠ k := by
  cases h with
  | create x s t =>
    have hx := hne x (.inl rfl)
    simp only [List.forall_mem_append, List.forall_mem_cons]
    tauto
  | update old new s t hkey => simp only [List.forall_mem_append, List.forall_mem_cons, hkey]
  | delete x s t =>
    have hx := hne x (.inr rfl)
    simp only [List.forall_mem_append, List.forall_mem_cons]
    tauto

theorem filter_eq (h : ch.Applies key l l') {p : α → Bool} (hp : ∀ x ∈ ch.objects, p x = false) :
    l'.filter p = l.filter p := by
  cases h <;> simp_all [objects]

end Applies

/-- The key of an object that is created, or has been deleted, is free. -/
theorem Applies.free_of_create {key : α → κ} {x : α} {l l' : List α} (h : (Change.create x).Applies key l l')
    (hnodup : (l'.map key).Nodup) : ∀ y ∈ l, key y ≠ key x := by
  cases h
  intro y hy hkey
  rw [List.map_append, List.map_cons] at hnodup
  have hnot := (List.nodup_middle.1 hnodup).notMem
  rw [← List.map_append] at hnot
  exact hnot (hkey ▸ List.mem_map_of_mem hy)

theorem Applies.free_of_delete {key : α → κ} {x : α} {l l' : List α} (h : (Change.delete x).Applies key l l')
    (hnodup : (l.map key).Nodup) : ∀ y ∈ l', key y ≠ key x := by
  cases h with
  | delete x s t => exact Applies.free_of_create (.create x s t) hnodup

theorem Applies.mem_create {key : α → κ} {x : α} {l l' : List α} (h : (Change.create x).Applies key l l') : x ∈ l' := by
  cases h
  simp

theorem Applies.mem_delete {key : α → κ} {x : α} {l l' : List α} (h : (Change.delete x).Applies key l l') : x ∈ l := by
  cases h
  simp

theorem Applies.mem_update {key : α → κ} {old new : α} {l l' : List α} (h : (Change.update old new).Applies key l l') :
    new ∈ l' := by
  cases h
  simp

/-- A map that fixes all other objects updates one of them. -/
theorem Applies.update_map {key : α → κ} {x : α} {l : List α} (hx : x ∈ l) (hnodup : (l.map key).Nodup) {f : α → α}
    (hkey : key (f x) = key x) (hf : ∀ y, key y ≠ key x → f y = y) :
    (Change.update x (f x)).Applies key l (l.map f) := by
  obtain ⟨s, t, rfl⟩ := List.append_of_mem hx
  rw [List.map_append, List.map_cons] at hnodup
  have hnot := (List.nodup_middle.1 hnodup).notMem
  rw [← List.map_append] at hnot
  have hfix : ∀ u ⊆ s ++ t, u.map f = u := fun u hu =>
    (List.map_congr_left fun y hy => hf y fun h => hnot (h ▸ List.mem_map_of_mem (hu hy))).trans (List.map_id u)
  rw [List.map_append, List.map_cons, hfix s (List.subset_append_left s t), hfix t (List.subset_append_right s t)]
  exact .update x (f x) s t hkey

/-- What an update does not change. -/
theorem Applies.map_eq {key : α → κ} {old new : α} {l l' : List α} (h : (Change.update old new).Applies key l l')
    {f : α → β} (hf : f new = f old) : l'.map f = l.map f := by
  cases h
  simp [hf]

end Change

end SingboxOperator.Lib
