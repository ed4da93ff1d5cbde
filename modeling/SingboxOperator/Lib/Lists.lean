import Mathlib.Data.List.Destutter
import Mathlib.Data.List.Sort
import Mathlib.Data.List.TakeWhile
/-!
# Sorted lists, first occurrences and first matches

`sortOn` is a stable sort on a key, `firstBy` keeps the first element of each
key. The order of the input does not show in a list sorted on distinct keys,
and the first match in a sorted list is a least one.
-/

namespace SingboxOperator.Lib

variable {α β κ : Type}

/-! ## Sorting -/

section Sorting
variable [LinearOrder κ]

/-- Stable sort on `key`, smallest first. -/
def sortOn (key : α → κ) (l : List α) : List α := l.insertionSort (fun a b => key a ≤ key b)

theorem sortOn_perm (key : α → κ) (l : List α) : (sortOn key l).Perm l := List.perm_insertionSort _ l

@[simp] theorem mem_sortOn {key : α → κ} {l : List α} {x : α} : x ∈ sortOn key l ↔ x ∈ l :=
  (sortOn_perm key l).mem_iff

@[simp] theorem length_sortOn (key : α → κ) (l : List α) : (sortOn key l).length = l.length :=
  (sortOn_perm key l).length_eq

theorem sortOn_pairwise (key : α → κ) (l : List α) : (sortOn key l).Pairwise (fun a b => key a ≤ key b) := by
  have : Std.Total (fun a b : α => key a ≤ key b) := ⟨fun a b => le_total (key a) (key b)⟩
  have : IsTrans α (fun a b : α => key a ≤ key b) := ⟨fun _ _ _ h h' => le_trans h h'⟩
  exact List.pairwise_insertionSort _ l

theorem nodup_map_sortOn {key : α → κ} {f : α → β} {l : List α} (h : (l.map f).Nodup) :
    ((sortOn key l).map f).Nodup :=
  ((sortOn_perm key l).map f).nodup_iff.2 h

/-- When the key tells the elements apart, the sorted list does not depend on the order of the input. -/
theorem sortOn_eq_of_perm {key : α → κ} {l l' : List α} (hk : ∀ a ∈ l, ∀ b ∈ l, key a = key b → a = b)
    (hp : l.Perm l') : sortOn key l = sortOn key l' := by
  have hpp : (sortOn key l).Perm (sortOn key l') :=
    (sortOn_perm key l).trans (hp.trans (sortOn_perm key l').symm)
  refine List.Perm.eq_of_pairwise ?_ (sortOn_pairwise key l) (sortOn_pairwise key l') hpp
  intro a b ha hb hab hba
  exact hk a (mem_sortOn.1 ha) b (hp.mem_iff.2 (mem_sortOn.1 hb)) (le_antisymm hab hba)

@[simp] theorem sortOn_nil (key : α → κ) : sortOn key [] = [] := rfl

@[simp] theorem sortOn_eq_nil {key : α → κ} {l : List α} : sortOn key l = [] ↔ l = [] := by
  rw [← List.length_eq_zero_iff, length_sortOn, List.length_eq_zero_iff]

/-- Sorting commutes with a map that keeps the key. -/
theorem sortOn_map {key : β → κ} {key' : α → κ} {f : α → β} {l : List α}
    (h : ∀ a ∈ l, key (f a) = key' a) : sortOn key (l.map f) = (sortOn key' l).map f := by
  refine (List.map_insertionSort _ _ f l fun a ha b hb => ?_).symm
  rw [h a ha, h b hb]

/-- When the key tells the elements apart, sorting commutes with a filter. -/
theorem filter_sortOn {key : α → κ} {l : List α} (hk : ∀ a ∈ l, ∀ b ∈ l, key a = key b → a = b) (p : α → Bool) :
    (sortOn key l).filter p = sortOn key (l.filter p) := by
  have hp : ((sortOn key l).filter p).Perm (sortOn key (l.filter p)) :=
    ((sortOn_perm key l).filter p).trans (sortOn_perm key _).symm
  refine List.Perm.eq_of_pairwise ?_ ((sortOn_pairwise key l).filter p) (sortOn_pairwise key _) hp
  intro a b ha hb hab hba
  exact hk a (mem_sortOn.1 (List.mem_filter.1 ha).1) b (List.mem_filter.1 (mem_sortOn.1 hb)).1 (le_antisymm hab hba)

/-- What is small enough is inserted into the first part of a list. -/
theorem orderedInsert_append_left {key : α → κ} {x : α} {s t : List α} (h : ∀ y ∈ t, key x ≤ key y) :
    (s ++ t).orderedInsert (fun a b => key a ≤ key b) x = s.orderedInsert (fun a b => key a ≤ key b) x ++ t := by
  induction s with
  | nil =>
    cases t with
    | nil => rfl
    | cons y t => simp [h y List.mem_cons_self]
  | cons a s ih =>
    by_cases ha : key x ≤ key a
    · simp [ha]
    · simp [ha, ih]

/-- What is too large for the first part is inserted into the second one. -/
theorem orderedInsert_append_right {key : α → κ} {x : α} {s t : List α} (h : ∀ y ∈ s, key y < key x) :
    (s ++ t).orderedInsert (fun a b => key a ≤ key b) x = s ++ t.orderedInsert (fun a b => key a ≤ key b) x := by
  induction s with
  | nil => rfl
  | cons a s ih =>
    have ha : ¬ key x ≤ key a := not_le.2 (h a List.mem_cons_self)
    simp [ha, ih fun y hy => h y (List.mem_cons_of_mem _ hy)]

/-- One more element leaves the others in the order they had. -/
theorem exists_sortOn_insert (key : α → κ) (before : List α) (x : α) (after : List α) :
    ∃ ahead behind, sortOn key (before ++ x :: after) = ahead ++ x :: behind ∧
      sortOn key (before ++ after) = ahead ++ behind := by
  -- what is inserted later goes to the side of `x` its key says
  suffices h : ∃ ahead behind, sortOn key (before ++ x :: after) = ahead ++ x :: behind ∧
      sortOn key (before ++ after) = ahead ++ behind ∧ (∀ y ∈ ahead, key y ≤ key x) ∧ ∀ y ∈ behind, key x ≤ key y by
    obtain ⟨ahead, behind, hx, h, -⟩ := h
    exact ⟨ahead, behind, hx, h⟩
  induction before with
  | nil =>
    have hs := sortOn_pairwise key after
    have hi : sortOn key (x :: after) = (sortOn key after).orderedInsert (fun a b => key a ≤ key b) x := rfl
    rw [List.orderedInsert_eq_take_drop] at hi
    refine ⟨_, _, hi, List.takeWhile_append_dropWhile.symm, fun y hy => ?_, ?_⟩
    · have := List.mem_takeWhile_imp hy
      exact (not_le.1 (of_decide_eq_true this)).le
    · rw [← List.takeWhile_append_dropWhile (p := fun b => decide ¬ key x ≤ key b) (l := sortOn key after),
        List.pairwise_append] at hs
      have hb := hs.2.1
      have hhead := List.head?_dropWhile_not (fun b => decide ¬ key x ≤ key b) (sortOn key after)
      generalize (sortOn key after).dropWhile _ = behind at hb hhead
      intro y hy
      cases behind with
      | nil => cases hy
      | cons z behind =>
        have hz : key x ≤ key z := by simpa using hhead
        rcases List.mem_cons.1 hy with rfl | hy
        · exact hz
        · exact hz.trans ((List.pairwise_cons.1 hb).1 y hy)
  | cons a before ih =>
    obtain ⟨ahead, behind, hx, h, hle, hge⟩ := ih
    have hcons : ∀ l, sortOn key (a :: l) = (sortOn key l).orderedInsert (fun a b => key a ≤ key b) a := fun _ => rfl
    rw [List.cons_append, List.cons_append, hcons, hcons, hx, h]
    by_cases ha : key a ≤ key x
    · have hbehind : ∀ y ∈ behind, key a ≤ key y := fun y hy => ha.trans (hge y hy)
      refine ⟨_, behind, orderedInsert_append_left ?_, orderedInsert_append_left hbehind, ?_, hge⟩
      · simpa using ⟨ha, hbehind⟩
      · intro y hy
        rcases (List.mem_orderedInsert _).1 hy with rfl | hy
        · exact ha
        · exact hle y hy
    · have hahead : ∀ y ∈ ahead, key y < key a := fun y hy => (hle y hy).trans_lt (not_le.1 ha)
      refine ⟨ahead, _, ?_, orderedInsert_append_right hahead, hle, ?_⟩
      · rw [orderedInsert_append_right hahead, List.orderedInsert_cons, if_neg ha]
      · intro y hy
        rcases (List.mem_orderedInsert _).1 hy with rfl | hy
        · exact (not_le.1 ha).le
        · exact hge y hy

end Sorting

/-- A filter that looks at `f x` only keeps equal images equal. -/
theorem map_filter_congr {f : α → β} {p : α → Bool} (q : β → Bool) (hp : ∀ x, p x = q (f x)) {l l' : List α}
    (h : l'.map f = l.map f) : (l'.filter p).map f = (l.filter p).map f := by
  have hfilter : ∀ l : List α, (l.filter p).map f = (l.map f).filter q := by
    intro l
    rw [List.filter_map]
    exact congrArg (List.map f) (List.filter_congr fun x _ => hp x)
  rw [hfilter, hfilter, h]

/-! ## First occurrences -/

section First
variable [DecidableEq κ]

/-- The first element of each key, in order. -/
def firstBy (key : α → κ) (l : List α) : List α := l.eraseDupsBy (fun a b => key a == key b)

@[simp] theorem firstBy_nil (key : α → κ) : firstBy key [] = [] := rfl

theorem firstBy_cons (key : α → κ) (x : α) (l : List α) :
    firstBy key (x :: l) = x :: firstBy key (l.filter fun y => key y ≠ key x) := by
  simp only [firstBy, List.eraseDupsBy_cons]
  congr 2
  simp

/-- An element survives exactly when it is the first one with its key. -/
theorem mem_firstBy {key : α → κ} {x : α} {l : List α} :
    x ∈ firstBy key l ↔ l.find? (fun y => key y = key x) = some x := by
  induction hn : l.length using Nat.strong_induction_on generalizing l with
  | _ n ih =>
    cases l with
    | nil => simp
    | cons y l =>
      subst hn
      have ih' := ih _ (Nat.lt_succ_of_le (List.length_filter_le (fun z => decide (key z ≠ key y)) l)) rfl
      rw [firstBy_cons, List.mem_cons, ih', List.find?_cons, List.find?_filter]
      by_cases hk : key y = key x
      · -- what comes after `y` with its key has been filtered out
        simp only [hk, decide_true, Option.some.injEq]
        refine ⟨fun h => ?_, fun h => .inl h.symm⟩
        rcases h with h | h
        · exact h.symm
        · have := List.find?_some h
          simp at this
      · have hx : x ≠ y := fun h => hk (h ▸ rfl)
        have hf : ∀ a, (key a ≠ key y ∧ key a = key x) ↔ key a = key x :=
          fun a => ⟨And.right, fun h => ⟨fun h' => hk (h'.symm.trans h), h⟩⟩
        simp [hk, hx, hf]

theorem mem_of_mem_firstBy {key : α → κ} {x : α} {l : List α} (h : x ∈ firstBy key l) : x ∈ l :=
  List.mem_of_find?_eq_some (mem_firstBy.1 h)

/-- Every key keeps an element. -/
theorem exists_mem_firstBy {key : α → κ} {x : α} {l : List α} (h : x ∈ l) : ∃ y ∈ firstBy key l, key y = key x := by
  cases hf : l.find? (fun y => key y = key x) with
  | none => simp only [List.find?_eq_none, decide_eq_true_eq] at hf; exact absurd rfl (hf x h)
  | some y =>
    have hk : key y = key x := by simpa using List.find?_some hf
    exact ⟨y, mem_firstBy.2 (hk ▸ hf), hk⟩

theorem nodup_map_firstBy (key : α → κ) (l : List α) : ((firstBy key l).map key).Nodup := by
  induction hn : l.length using Nat.strong_induction_on generalizing l with
  | _ n ih =>
    cases l with
    | nil => simp
    | cons x l =>
      subst hn
      rw [firstBy_cons, List.map_cons, List.nodup_cons]
      refine ⟨fun h => ?_, ih _ (Nat.lt_succ_of_le (List.length_filter_le _ l)) _ rfl⟩
      obtain ⟨y, hy, hk⟩ := List.mem_map.1 h
      simpa [hk] using (List.mem_filter.1 (mem_of_mem_firstBy hy)).2

/-- Sorted on the key, what `firstBy` keeps is given by the first match of every key. -/
theorem sortOn_firstBy_congr [LinearOrder κ] {key : α → κ} {l l' : List α}
    (h : ∀ k, l.find? (fun x => key x = k) = l'.find? (fun x => key x = k)) :
    sortOn key (firstBy key l) = sortOn key (firstBy key l') := by
  refine sortOn_eq_of_perm (fun a ha b hb hab => ?_) ?_
  · rw [mem_firstBy, hab, mem_firstBy.1 hb] at ha
    exact (Option.some.inj ha).symm
  · rw [List.perm_ext_iff_of_nodup (nodup_map_firstBy key l).of_map (nodup_map_firstBy key l').of_map]
    intro x
    rw [mem_firstBy, mem_firstBy, h]

/-- On distinct keys nothing is dropped. -/
theorem firstBy_eq_self {key : α → κ} {l : List α} (h : (l.map key).Nodup) : firstBy key l = l := by
  induction l with
  | nil => rfl
  | cons x l ih =>
    rw [List.map_cons, List.nodup_cons] at h
    have hf : l.filter (fun y => decide (key y ≠ key x)) = l := by
      refine List.filter_eq_self.2 fun y hy => ?_
      simp only [ne_eq, decide_eq_true_eq]
      exact fun he => h.1 (he ▸ List.mem_map_of_mem hy)
    rw [firstBy_cons, hf, ih h.2]

theorem firstBy_append (key : α → κ) (s t : List α) :
    firstBy key (s ++ t) = firstBy key s ++ firstBy key (t.filter fun y => key y ∉ s.map key) := by
  induction hn : s.length using Nat.strong_induction_on generalizing s t with
  | _ n ih =>
    cases s with
    | nil => simp
    | cons x s =>
      subst hn
      rw [List.cons_append, firstBy_cons, firstBy_cons, List.filter_append,
        ih _ (Nat.lt_succ_of_le (List.length_filter_le _ s)) _ _ rfl, List.filter_filter, List.cons_append]
      congr 3
      refine List.filter_congr fun y _ => ?_
      -- a key other than that of `x` is as new after the filter as before it
      by_cases hy : key y = key x
      · simp [hy]
      · have hkeep : (∀ z ∈ s, ¬ key z = key x → ¬ key z = key y) ↔ ∀ z ∈ s, ¬ key z = key y :=
          ⟨fun h z hz he => h z hz (fun hx => hy (he.symm.trans hx)) he, fun h z hz _ => h z hz⟩
        simp [hy, hkeep]

/-- An element put between two parts does not show when its key has been there,
or when it is the next new one itself. -/
theorem firstBy_insert_eq_iff {key : α → κ} {s t : List α} {x : α} :
    firstBy key (s ++ x :: t) = firstBy key (s ++ t) ↔
      key x ∈ s.map key ∨ t.find? (fun y => key y ∉ s.map key) = some x := by
  rw [firstBy_append, firstBy_append, List.append_cancel_left_eq]
  by_cases hx : key x ∈ s.map key
  · simp only [hx, true_or, iff_true]
    rw [List.filter_cons_of_neg (by simpa using hx)]
  · rw [List.filter_cons_of_pos (by simpa using hx), ← List.head?_filter, firstBy_cons]
    simp only [hx, false_or]
    cases t.filter fun y => decide (key y ∉ s.map key) with
    | nil => simp
    | cons y t => 
      rw [firstBy_cons, List.cons.injEq, List.head?_cons, Option.some.injEq, @eq_comm _ x y]
      refine and_iff_left_of_imp ?_
      rintro rfl
      simp

/-- A test of the key may be made before or after. -/
theorem filter_firstBy (key : α → κ) (p : κ → Bool) (l : List α) :
    (firstBy key l).filter (fun x => p (key x)) = firstBy key (l.filter fun x => p (key x)) := by
  induction hn : l.length using Nat.strong_induction_on generalizing l with
  | _ n ih =>
    cases l with
    | nil => rfl
    | cons x l =>
      subst hn
      have ih' := ih _ (Nat.lt_succ_of_le (List.length_filter_le (fun y => decide (key y ≠ key x)) l)) _ rfl
      rw [firstBy_cons, List.filter_cons, ih', List.filter_cons, List.filter_filter]
      by_cases hp : p (key x) = true
      · simp only [hp, if_true, firstBy_cons, List.filter_filter, Bool.and_comm]
      · simp only [hp, Bool.false_eq_true, if_false]
        congr 1
        refine List.filter_congr fun y _ => ?_
        by_cases hy : key y = key x
        · simp [hy, hp]
        · simp [hy]

/-- Names that occur again give elements that have been there. -/
theorem firstBy_filterMap_eraseDups [DecidableEq β] (key : α → κ) (f : β → Option α) (s : List α) (names : List β)
    (t : List α) :
    firstBy key (s ++ names.eraseDups.filterMap f ++ t) = firstBy key (s ++ names.filterMap f ++ t) := by
  induction names using List.reverseRecOn generalizing t with
  | nil => rfl
  | append_singleton names a ih =>
    rw [List.eraseDups_append, List.filterMap_append, List.filterMap_append]
    by_cases ha : a ∈ names
    · have hrem : ([a] : List β).removeAll names = [] := by simp [List.removeAll, ha]
      rw [hrem, List.eraseDups_nil, List.filterMap_nil, List.append_nil, ih]
      cases hf : f a with
      | none => simp [hf]
      | some x =>
        have hmem : x ∈ names.filterMap f := List.mem_filterMap.2 ⟨a, ha, hf⟩
        have hins : firstBy key (s ++ names.filterMap f ++ x :: t) = firstBy key (s ++ names.filterMap f ++ t) :=
          firstBy_insert_eq_iff.2 (.inl (List.mem_map_of_mem (List.mem_append_right _ hmem)))
        simpa [hf] using hins.symm
    · have hrem : ([a] : List β).removeAll names = [a] := by simp [List.removeAll, ha]
      have hone : ([a] : List β).eraseDups = [a] := by simp [List.eraseDups_cons]
      have := ih ([a].filterMap f ++ t)
      rw [hrem, hone]
      simpa only [List.append_assoc] using this

end First

theorem filter_eraseDups [DecidableEq α] (p : α → Bool) (l : List α) : l.eraseDups.filter p = (l.filter p).eraseDups := by
  induction hn : l.length using Nat.strong_induction_on generalizing l with
  | _ n ih =>
    cases l with
    | nil => rfl
    | cons x l =>
      subst hn
      have ih' := ih _ (Nat.lt_succ_of_le (List.length_filter_le (fun y => !y == x) l)) _ rfl
      rw [List.eraseDups_cons, List.filter_cons, ih', List.filter_cons, List.filter_filter]
      by_cases hp : p x = true
      · simp only [hp, if_true, List.eraseDups_cons, List.filter_filter, Bool.and_comm]
      · -- an element that `p` drops takes no part in the result
        simp only [hp, Bool.false_eq_true, if_false]
        congr 1
        refine List.filter_congr fun y _ => ?_
        by_cases hy : y = x
        · simp [hy, hp]
        · simp [hy]

theorem nodup_eraseDups [DecidableEq α] (l : List α) : l.eraseDups.Nodup := by
  induction hn : l.length using Nat.strong_induction_on generalizing l with
  | _ n ih =>
    cases l with
    | nil => simp
    | cons x l =>
      subst hn
      rw [List.eraseDups_cons, List.nodup_cons]
      refine ⟨by simp, ih _ (Nat.lt_succ_of_le (List.length_filter_le _ l)) _ rfl⟩

/-- What comes first is kept first. -/
theorem eraseDups_append_cons [DecidableEq α] {x : α} {as : List α} (hx : x ∉ as) (bs : List α) :
    ∃ rest, (as ++ x :: bs).eraseDups = as.eraseDups ++ x :: rest := by
  refine ⟨((bs.removeAll as).filter fun b => !b == x).eraseDups, ?_⟩
  rw [List.eraseDups_append, List.removeAll, List.filter_cons]
  simp [hx, List.eraseDups_cons, List.removeAll]

/-- Reordering a middle part with at most one new element does not show. -/
theorem eraseDups_append_perm [DecidableEq α] {as bs bs' : List α} (hp : bs'.Perm bs)
    (h : ∀ x ∈ bs, ∀ y ∈ bs, x ∉ as → y ∉ as → x = y) (cs : List α) :
    (as ++ bs' ++ cs).eraseDups = (as ++ bs ++ cs).eraseDups := by
  have hnew : bs'.removeAll as = bs.removeAll as := by
    have hperm : (bs'.removeAll as).Perm (bs.removeAll as) := hp.filter _
    cases hb : bs.removeAll as with
    | nil => exact List.perm_nil.1 (hb ▸ hperm)
    | cons x rest =>
      have hall : ∀ y ∈ bs.removeAll as, y = x := by
        have hx : x ∈ bs.removeAll as := by rw [hb]; exact List.mem_cons_self
        intro y hy
        simp only [List.removeAll, List.mem_filter] at hx hy
        exact h y hy.1 x hx.1 (by simpa using hy.2) (by simpa using hx.2)
      obtain ⟨n, hrep⟩ : ∃ n, bs.removeAll as = List.replicate n x := ⟨_, List.eq_replicate_iff.2 ⟨rfl, hall⟩⟩
      rw [← hb, hrep]
      rw [hrep] at hperm
      exact List.perm_replicate.1 hperm
  rw [List.append_assoc, List.append_assoc, List.eraseDups_append, List.eraseDups_append]
  congr 2
  simp only [List.removeAll, List.filter_append] at hnew ⊢
  rw [hnew]

/-- The first occurrence of a separator splits a list in one way. -/
theorem append_cons_inj {a : α} {l₁ l₂ r₁ r₂ : List α} (h₁ : a ∉ l₁) (h₂ : a ∉ l₂) :
    l₁ ++ a :: r₁ = l₂ ++ a :: r₂ ↔ l₁ = l₂ ∧ r₁ = r₂ := by
  refine ⟨fun h => ?_, fun ⟨h, h'⟩ => by rw [h, h']⟩
  induction l₁ generalizing l₂ with
  | nil =>
    cases l₂ with
    | nil => simpa using h
    | cons y l₂ => simp only [List.nil_append, List.cons_append, List.cons.injEq] at h; simp [h.1] at h₂
  | cons x l₁ ih =>
    cases l₂ with
    | nil => simp only [List.nil_append, List.cons_append, List.cons.injEq] at h; simp [h.1] at h₁
    | cons y l₂ =>
      simp only [List.cons_append, List.cons.injEq] at h
      have := ih (fun hm => h₁ (List.mem_cons_of_mem _ hm)) (fun hm => h₂ (List.mem_cons_of_mem _ hm)) h.2
      simp [h.1, this]

/-- So does the last one. -/
theorem append_cons_inj_last {a : α} {l₁ l₂ r₁ r₂ : List α} (h₁ : a ∉ r₁) (h₂ : a ∉ r₂) :
    l₁ ++ a :: r₁ = l₂ ++ a :: r₂ ↔ l₁ = l₂ ∧ r₁ = r₂ := by
  have hrev : r₁.reverse ++ a :: l₁.reverse = r₂.reverse ++ a :: l₂.reverse ↔
      r₁.reverse = r₂.reverse ∧ l₁.reverse = l₂.reverse :=
    append_cons_inj (by simpa using h₁) (by simpa using h₂)
  rw [← List.reverse_inj]
  simpa [and_comm] using hrev

/-- Dropping repetitions in a row drops no value. -/
theorem mem_destutter_ne [DecidableEq α] {x : α} {l : List α} : x ∈ l.destutter (· ≠ ·) ↔ x ∈ l := by
  have hfrom : ∀ (l : List α) (a : α), x ∈ l.destutter' (· ≠ ·) a ↔ x ∈ a :: l := by
    intro l
    induction l with
    | nil => simp
    | cons b l ih =>
      intro a
      by_cases h : a = b
      · rw [List.destutter'_cons_neg _ (not_not.2 h), ih, h]
        simp
      · rw [List.destutter'_cons_pos _ h, List.mem_cons, ih, ← List.mem_cons]
  cases l with
  | nil => simp
  | cons a l => rw [List.destutter_cons', hfrom]

/-- What is left of a sorted list is strictly sorted. -/
theorem pairwise_lt_destutter_ne [LinearOrder α] [DecidableEq α] {l : List α} (h : l.Pairwise (· ≤ ·)) :
    (l.destutter (· ≠ ·)).Pairwise (· < ·) := by
  have hs := h.sublist (List.destutter_sublist (· ≠ ·) l)
  have hne := List.isChain_destutter (· ≠ ·) l
  generalize l.destutter (· ≠ ·) = d at hs hne
  rw [← List.isChain_iff_pairwise]
  induction d with
  | nil => exact .nil
  | cons a d ih =>
    rw [List.isChain_cons] at hne ⊢
    rw [List.pairwise_cons] at hs
    exact ⟨fun b hb => lt_of_le_of_ne (hs.1 b (List.mem_of_mem_head? hb)) (hne.1 b hb), ih hs.2 hne.2⟩

/-- Among distinct images one element has a given one. -/
theorem filter_eq_singleton [DecidableEq β] {f : α → β} {l : List α} (h : (l.map f).Nodup) {x : α} (hx : x ∈ l) :
    l.filter (fun y => f y = f x) = [x] := by
  induction l with
  | nil => cases hx
  | cons a l ih =>
    rw [List.map_cons, List.nodup_cons] at h
    rcases List.mem_cons.1 hx with rfl | hx
    · rw [List.filter_cons_of_pos (by simp), List.cons_inj_right, List.filter_eq_nil_iff]
      intro y hy he
      exact h.1 (of_decide_eq_true he ▸ List.mem_map_of_mem hy)
    · rw [List.filter_cons_of_neg, ih h.2 hx]
      intro he
      exact h.1 (of_decide_eq_true he ▸ List.mem_map_of_mem hx)

theorem subperm_filterMap {l l' : List α} (f : α → Option β) (h : l.Subperm l') :
    (l.filterMap f).Subperm (l'.filterMap f) := by
  obtain ⟨m, hp, hs⟩ := h
  exact ⟨m.filterMap f, hp.filterMap f, hs.filterMap f⟩

/-- Two tests with the same count that agree on all elements but one agree on that one. -/
theorem eq_of_countP_eq {p q : α → Bool} {s t : List α} {x : α} (h : ∀ y ∈ s ++ t, p y = q y)
    (hc : (s ++ x :: t).countP p = (s ++ x :: t).countP q) : p x = q x := by
  have hst : (s ++ t).countP p = (s ++ t).countP q := List.countP_congr fun y hy => by rw [h y hy]
  rw [List.countP_append, List.countP_append] at hst
  rw [List.countP_append, List.countP_append, List.countP_cons, List.countP_cons] at hc
  cases hp : p x <;> cases hq : q x <;> simp only [hp, hq, if_true, Bool.false_eq_true, if_false] at hc ⊢ <;> omega

theorem countP_lt_countP {p q : α → Bool} {l : List α} (h : ∀ x ∈ l, p x = true → q x = true) {a : α} (ha : a ∈ l)
    (hp : p a = false) (hq : q a = true) : l.countP p < l.countP q := by
  obtain ⟨s, t, rfl⟩ := List.append_of_mem ha
  have hs := List.countP_mono_left (p := p) (q := q) (l := s) fun x hx => h x (List.mem_append_left _ hx)
  have ht := List.countP_mono_left (p := p) (q := q) (l := t) fun x hx =>
    h x (List.mem_append_right _ (List.mem_cons_of_mem _ hx))
  rw [List.countP_append, List.countP_append, List.countP_cons_of_neg (by simp [hp]), List.countP_cons_of_pos hq]
  omega

/-! ## First matches -/

/-- A search with one possible answer finds it. -/
theorem find?_eq_some_of_unique {l : List α} {p : α → Bool} {x : α} (hx : x ∈ l) (hp : p x = true)
    (hu : ∀ y ∈ l, p y = true → y = x) : l.find? p = some x := by
  cases h : l.find? p with
  | none => exact absurd hp (List.find?_eq_none.1 h x hx)
  | some y => rw [hu y (List.mem_of_find?_eq_some h) (List.find?_some h)]

/-- Its order does not matter then. -/
theorem find?_eq_of_perm {l l' : List α} {p : α → Bool} (hp : l.Perm l')
    (hu : ∀ x ∈ l, ∀ y ∈ l, p x = true → p y = true → x = y) : l.find? p = l'.find? p := by
  cases h : l'.find? p with
  | none => exact List.find?_eq_none.2 fun x hx => List.find?_eq_none.1 h x (hp.mem_iff.1 hx)
  | some y =>
    have hy := hp.mem_iff.2 (List.mem_of_find?_eq_some h)
    exact find?_eq_some_of_unique hy (List.find?_some h) fun x hx hpx => hu x hx y hy hpx (List.find?_some h)

/-- The first match in a list sorted on `key` is a least match. -/
theorem findSome?_least [LinearOrder κ] {key : α → κ} {f : α → Option β} {l : List α} {b : β}
    (hs : l.Pairwise (fun a a' => key a ≤ key a')) (h : l.findSome? f = some b) :
    ∃ a ∈ l, f a = some b ∧ ∀ a' ∈ l, (f a').isSome → key a ≤ key a' := by
  induction l with
  | nil => simp at h
  | cons a l ih =>
    rw [List.pairwise_cons] at hs
    rw [List.findSome?_cons] at h
    cases ha : f a with
    | some b' =>
      rw [ha] at h
      refine ⟨a, List.mem_cons_self, by rw [ha]; exact h, fun a' ha' _ => ?_⟩
      rcases List.mem_cons.1 ha' with rfl | ha'
      · exact le_refl _
      · exact hs.1 a' ha'
    | none =>
      rw [ha] at h
      obtain ⟨a₀, hm, hf, hl⟩ := ih hs.2 h
      refine ⟨a₀, List.mem_cons_of_mem _ hm, hf, fun a' ha' hsome => ?_⟩
      rcases List.mem_cons.1 ha' with rfl | ha'
      · simp [ha] at hsome
      · exact hl a' ha' hsome

/-- A list without repetitions that reads the same backwards. -/
theorem length_le_one_of_reverse {l : List α} (hnodup : l.Nodup) (h : l.reverse = l) : l.length ≤ 1 := by
  cases l with
  | nil => simp
  | cons a l =>
    cases l with
    | nil => simp
    | cons b l =>
      -- the first element would be the last one as well
      have hlast : (a :: b :: l).getLast? = some a := by rw [← List.head?_reverse, h, List.head?_cons]
      rw [List.getLast?_cons_cons] at hlast
      exact absurd (List.mem_of_getLast? hlast) (List.nodup_cons.1 hnodup).1

/-- Lists that look the same up to order under `f` agree in what depends only on how an element looks. -/
theorem perm_filterMap_of_map {f : α → β} {g : α → Option κ} (hg : ∀ x y, f x = f y → g x = g y) {l l' : List α}
    (h : (l.map f).Perm (l'.map f)) : (l.filterMap g).Perm (l'.filterMap g) := by
  have hfactor : g.FactorsThrough f := fun x y => hg x y
  have hg' : g = Function.extend f g (fun _ => none) ∘ f := by
    funext x
    exact (hfactor.extend_apply _ x).symm
  rw [hg', ← List.filterMap_map, ← List.filterMap_map]
  exact h.filterMap _

/-- A fold whose steps fail for what they are given, not for what came before. -/
theorem foldlM_isOk {ε : Type} {f : β → α → Except ε β} {P : α → Prop} (h : ∀ b x, (∃ b', f b x = .ok b') ↔ P x)
    {l : List α} : ∀ {b : β}, (∃ b', l.foldlM f b = .ok b') ↔ ∀ x ∈ l, P x := by
  induction l with
  | nil =>
    intro b
    exact ⟨fun _ => nofun, fun _ => ⟨b, rfl⟩⟩
  | cons x l ih =>
    intro b
    rw [List.forall_mem_cons, List.foldlM_cons, ← h b x]
    cases hx : f b x with
    | error e => simp [bind, Except.bind]
    | ok mid => simpa [bind, Except.bind] using ih

end SingboxOperator.Lib
