import Mathlib.Data.List.Nodup
/-!
# Stores in which a document is written once

Documents lie under ids. `create` writes a document under an id that is free and
leaves the store as it is when the id is taken, so what is stored under an id
never changes, and creating a document again does nothing. `createAll` creates
one document after the other; when their ids are distinct and free it appends
exactly them.
-/

namespace SingboxOperator.Lib

variable {ι δ : Type}

structure WriteOnce (ι δ : Type) where
  entries : List (ι × δ)
  nodup : (entries.map Prod.fst).Nodup

namespace WriteOnce

def empty : WriteOnce ι δ := ⟨[], List.nodup_nil⟩

def ids (s : WriteOnce ι δ) : List ι := s.entries.map Prod.fst

variable [DecidableEq ι] {s : WriteOnce ι δ} {i j : ι} {d x : δ} {e : ι × δ} {l : List (ι × δ)}

def get (s : WriteOnce ι δ) (i : ι) : Option δ := (s.entries.find? fun e => e.1 = i).map Prod.snd

def create (s : WriteOnce ι δ) (i : ι) (d : δ) : WriteOnce ι δ :=
  if h : i ∈ s.ids then s
  else
    { entries := s.entries ++ [(i, d)]
      nodup := by
        rw [List.map_append]
        exact s.nodup.append (List.nodup_singleton _) (List.disjoint_singleton.2 h) }

def createAll (s : WriteOnce ι δ) (l : List (ι × δ)) : WriteOnce ι δ := l.foldl (fun s e => s.create e.1 e.2) s

/-! ## One document -/

theorem create_of_mem (h : i ∈ s.ids) : s.create i d = s := dif_pos h

theorem entries_create (h : i ∉ s.ids) : (s.create i d).entries = s.entries ++ [(i, d)] := by
  rw [create, dif_neg h]

theorem mem_create (h : e ∈ s.entries) : e ∈ (s.create i d).entries := by
  by_cases hi : i ∈ s.ids
  · rwa [create_of_mem hi]
  · rw [entries_create hi]
    exact List.mem_append_left _ h

theorem of_mem_create (h : e ∈ (s.create i d).entries) : e ∈ s.entries ∨ e = (i, d) := by
  by_cases hi : i ∈ s.ids
  · rw [create_of_mem hi] at h
    exact .inl h
  · rw [entries_create hi] at h
    simpa using h

theorem mem_ids_create_self : i ∈ (s.create i d).ids := by
  by_cases hi : i ∈ s.ids
  · rwa [create_of_mem hi]
  · simp [ids, entries_create hi]

theorem get_eq_some : s.get i = some d ↔ (i, d) ∈ s.entries := by
  constructor
  · intro h
    obtain ⟨e, hfind, rfl⟩ := Option.map_eq_some_iff.1 h
    obtain rfl : e.1 = i := by simpa using List.find?_some hfind
    exact List.mem_of_find?_eq_some hfind
  · intro h
    cases hfind : s.entries.find? (fun e => decide (e.1 = i)) with
    | none => exact absurd (List.find?_eq_none.1 hfind _ h) (by simp)
    | some e =>
      have hi : e.1 = i := by simpa using List.find?_some hfind
      have he : e = (i, d) := List.inj_on_of_nodup_map s.nodup (List.mem_of_find?_eq_some hfind) h hi
      rw [get, hfind, he]
      rfl

theorem mem_ids_iff : i ∈ s.ids ↔ ∃ d, s.get i = some d := by
  simp only [ids, List.mem_map, get_eq_some]
  constructor
  · rintro ⟨e, he, rfl⟩
    exact ⟨e.2, he⟩
  · rintro ⟨d, h⟩
    exact ⟨_, h, rfl⟩

/-- What is stored stays. -/
theorem get_create_of_some (h : s.get j = some x) : (s.create i d).get j = some x :=
  get_eq_some.2 (mem_create (get_eq_some.1 h))

theorem get_create_self (h : s.get i = none) : (s.create i d).get i = some d := by
  have hi : i ∉ s.ids := by
    rw [mem_ids_iff]
    simp [h]
  rw [get_eq_some, entries_create hi]
  simp

theorem of_get_create (h : (s.create i d).get j = some x) : s.get j = some x ∨ x = d := by
  rcases of_mem_create (get_eq_some.1 h) with h | h
  · exact .inl (get_eq_some.2 h)
  · exact .inr (Prod.mk.inj h).2

/-! ## Many documents -/

theorem mem_createAll (h : e ∈ s.entries) : e ∈ (s.createAll l).entries := by
  induction l generalizing s with
  | nil => exact h
  | cons e' l ih => exact ih (mem_create h)

theorem of_mem_createAll (h : e ∈ (s.createAll l).entries) : e ∈ s.entries ∨ e ∈ l := by
  induction l generalizing s with
  | nil => exact .inl h
  | cons e' l ih =>
    rcases ih h with h | h
    · rcases of_mem_create h with h | rfl
      · exact .inl h
      · exact .inr List.mem_cons_self
    · exact .inr (List.mem_cons_of_mem _ h)

theorem mem_ids_createAll (h : e ∈ l) : e.1 ∈ (s.createAll l).ids := by
  induction l generalizing s with
  | nil => cases h
  | cons e' l ih =>
    rcases List.mem_cons.1 h with rfl | h
    · obtain ⟨stored, hstored, hid⟩ := List.mem_map.1 (mem_ids_create_self (s := s) (i := e.1) (d := e.2))
      exact hid ▸ List.mem_map_of_mem (mem_createAll (l := l) hstored)
    · exact ih h

end WriteOnce

end SingboxOperator.Lib
