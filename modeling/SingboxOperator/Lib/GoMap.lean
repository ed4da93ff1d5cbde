import Mathlib.Data.List.AList
import Mathlib.Data.List.Perm.Subperm
import SingboxOperator.Lib.Lists
/-!
# Go maps

A map is an association list with distinct keys. Reading a missing key gives
the zero value, which the caller passes. `range` visits the entries in an
order the language leaves open: `MapOrder` picks one for every execution of
every loop, and a result that holds for each `MapOrder` holds for each order.
-/

namespace SingboxOperator.Lib

/-- A Go `map[K]V`. -/
abbrev GoMap (K V : Type) := AList (fun _ : K => V)

namespace GoMap
variable {K V α : Type}

/-- The entries of a map, in the order it stores them. -/
def toList (m : GoMap K V) : List (K × V) := m.entries.map fun e => (e.1, e.2)

/-- `len(m)`. -/
def len (m : GoMap K V) : Nat := m.entries.length

variable [DecidableEq K]

/-- `m[k]`: the zero value when `k` is missing. -/
def get (m : GoMap K V) (k : K) (zero : V) : V := (m.lookup k).getD zero

/-- A map built by assigning `m[key x] = val x` for each `x`, in order. -/
def assignAll (key : α → K) (val : α → V) (m : GoMap K V) (xs : List α) : GoMap K V :=
  xs.foldl (fun m x => m.insert (key x) (val x)) m

/-- The same loop when some `x` have nothing to assign. -/
def assignSome (key : α → K) (val : α → Option V) (m : GoMap K V) (xs : List α) : GoMap K V :=
  xs.foldl (fun m x => match val x with | some v => m.insert (key x) v | none => m) m

omit [DecidableEq K] in
theorem keys_toList (m : GoMap K V) : m.toList.map Prod.fst = m.keys := by
  simp only [toList, List.map_map]
  rfl

omit [DecidableEq K] in
theorem nodup_toList (m : GoMap K V) : m.toList.Nodup :=
  List.Nodup.of_map Prod.fst (by rw [keys_toList]; exact m.keys_nodup)

theorem mem_toList {m : GoMap K V} {k : K} {v : V} : (k, v) ∈ m.toList ↔ m.lookup k = some v := by
  rw [← Option.mem_def, AList.mem_lookup_iff]
  simp only [toList, List.mem_map, Prod.mk.injEq]
  constructor
  · rintro ⟨⟨a, b⟩, he, rfl, rfl⟩; exact he
  · intro h; exact ⟨⟨k, v⟩, h, rfl, rfl⟩

/-- Two maps with the same reads have the same entries, in some order. -/
theorem toList_perm_of_lookup_eq {m m' : GoMap K V} (h : ∀ k, m.lookup k = m'.lookup k) :
    m.toList.Perm m'.toList := by
  rw [List.perm_ext_iff_of_nodup (nodup_toList m) (nodup_toList m')]
  rintro ⟨k, v⟩
  rw [mem_toList, mem_toList, h k]

theorem get_congr {m m' : GoMap K V} (h : ∀ k, m.lookup k = m'.lookup k) (k : K) (zero : V) :
    m.get k zero = m'.get k zero := by
  simp only [get, h k]

@[simp] theorem get_empty (k : K) (zero : V) : get (∅ : GoMap K V) k zero = zero := rfl

@[simp] theorem get_insert_self (m : GoMap K V) (k : K) (v zero : V) : get (m.insert k v) k zero = v := by
  simp [get]

theorem lookup_insert_eq (m : GoMap K V) (k k' : K) (v : V) :
    (m.insert k v).lookup k' = if k' = k then some v else m.lookup k' := by
  split
  · rename_i h
    rw [h, AList.lookup_insert]
  · rename_i h
    rw [AList.lookup_insert_ne h]

theorem get_insert_ne (m : GoMap K V) {k k' : K} (v zero : V) (h : k ≠ k') :
    get (m.insert k' v) k zero = m.get k zero := by
  simp [get, AList.lookup_insert_ne h]

/-! ## Maps built by a loop of assignments -/

@[simp] theorem assignAll_nil (key : α → K) (val : α → V) (m : GoMap K V) : assignAll key val m [] = m := rfl

@[simp] theorem assignAll_cons (key : α → K) (val : α → V) (m : GoMap K V) (x : α) (xs : List α) :
    assignAll key val m (x :: xs) = assignAll key val (m.insert (key x) (val x)) xs := rfl

theorem assignAll_append (key : α → K) (val : α → V) (m : GoMap K V) (xs ys : List α) :
    assignAll key val m (xs ++ ys) = assignAll key val (assignAll key val m xs) ys := by
  simp only [assignAll, List.foldl_append]

/-- A key no assignment touches keeps its value. -/
theorem lookup_assignAll_of_notMem (key : α → K) (val : α → V) (k : K) (xs : List α) (h : ∀ x ∈ xs, key x ≠ k) :
    ∀ m : GoMap K V, (assignAll key val m xs).lookup k = m.lookup k := by
  induction xs with
  | nil => intro m; rfl
  | cons x xs ih =>
    intro m
    rw [assignAll_cons, ih (fun y hy => h y (List.mem_cons_of_mem _ hy))]
    exact AList.lookup_insert_ne (h x List.mem_cons_self).symm

/-- A key that is assigned reads back one of the values assigned to it. -/
theorem lookup_assignAll_of_mem (key : α → K) (val : α → V) (k : K) (xs : List α) (h : ∃ x ∈ xs, key x = k) :
    ∀ m : GoMap K V, ∃ x ∈ xs, key x = k ∧ (assignAll key val m xs).lookup k = some (val x) := by
  induction xs with
  | nil => obtain ⟨x, hx, _⟩ := h; cases hx
  | cons x xs ih =>
    intro m
    by_cases hxs : ∃ y ∈ xs, key y = k
    · obtain ⟨y, hy, hk, hl⟩ := ih hxs (m.insert (key x) (val x))
      exact ⟨y, List.mem_cons_of_mem _ hy, hk, hl⟩
    · obtain ⟨y, hy, hk⟩ := h
      rcases List.mem_cons.1 hy with rfl | hy
      · refine ⟨y, List.mem_cons_self, hk, ?_⟩
        rw [assignAll_cons, lookup_assignAll_of_notMem key val k xs (fun z hz hzk => hxs ⟨z, hz, hzk⟩), ← hk]
        exact AList.lookup_insert m
      · exact absurd ⟨y, hy, hk⟩ hxs

/-- Where a lookup in an assigned map comes from. -/
theorem lookup_assignAll_some (key : α → K) (val : α → V) {k : K} {v : V} {xs : List α} {m : GoMap K V}
    (h : (assignAll key val m xs).lookup k = some v) : (∃ x ∈ xs, key x = k ∧ val x = v) ∨ m.lookup k = some v := by
  by_cases hx : ∃ x ∈ xs, key x = k
  · obtain ⟨x, hx, hk, hl⟩ := lookup_assignAll_of_mem key val k xs hx m
    rw [hl] at h
    exact .inl ⟨x, hx, hk, Option.some.inj h⟩
  · rw [lookup_assignAll_of_notMem key val k xs (fun x hm hk => hx ⟨x, hm, hk⟩)] at h
    exact .inr h

/-- When the key determines the value, an assigned key reads back its value. -/
theorem lookup_assignAll_eq (key : α → K) (val : α → V) {x : α} {xs : List α} (hx : x ∈ xs)
    (hu : ∀ y ∈ xs, key y = key x → val y = val x) (m : GoMap K V) :
    (assignAll key val m xs).lookup (key x) = some (val x) := by
  obtain ⟨y, hy, hk, hl⟩ := lookup_assignAll_of_mem key val (key x) xs ⟨x, hx, rfl⟩ m
  rw [hl, hu y hy hk]

/-- On distinct keys a map built from nothing reads back exactly what was assigned. -/
theorem lookup_assignAll_iff (key : α → K) {k : K} {x : α} {xs : List α}
    (hu : ∀ y ∈ xs, ∀ z ∈ xs, key y = key z → y = z) :
    (assignAll key id (∅ : GoMap K α) xs).lookup k = some x ↔ x ∈ xs ∧ key x = k := by
  constructor
  · intro h
    rcases lookup_assignAll_some key id h with ⟨y, hy, hk, rfl⟩ | h
    · exact ⟨hy, hk⟩
    · simp at h
  · rintro ⟨hx, rfl⟩
    exact lookup_assignAll_eq key id hx (fun y hy h => hu y hy x hx h) ∅

/-- A set with further members. -/
theorem get_assignAll_true {m : GoMap K Bool} {xs : List K} {k : K} :
    (assignAll id (fun _ => true) m xs).get k false = true ↔ m.get k false = true ∨ k ∈ xs := by
  by_cases h : k ∈ xs
  · obtain ⟨_, _, _, hl⟩ := lookup_assignAll_of_mem id (fun _ => true) k xs ⟨k, h, rfl⟩ m
    simp [get, hl, h]
  · have hl := lookup_assignAll_of_notMem id (fun _ => true) k xs (fun x hx he => h (he ▸ hx)) m
    simp [get, hl, h]

@[simp] theorem assignSome_nil (key : α → K) (val : α → Option V) (m : GoMap K V) : assignSome key val m [] = m := rfl

theorem assignSome_cons (key : α → K) (val : α → Option V) (m : GoMap K V) (x : α) (xs : List α) :
    assignSome key val m (x :: xs) =
      assignSome key val (match val x with | some v => m.insert (key x) v | none => m) xs := rfl

theorem assignSome_append (key : α → K) (val : α → Option V) (m : GoMap K V) (xs ys : List α) :
    assignSome key val m (xs ++ ys) = assignSome key val (assignSome key val m xs) ys := by
  simp only [assignSome, List.foldl_append]

/-- A key no element has keeps its value. -/
theorem lookup_assignSome_of_notMem (key : α → K) (val : α → Option V) (k : K) (xs : List α) (h : ∀ x ∈ xs, key x ≠ k) :
    ∀ m : GoMap K V, (assignSome key val m xs).lookup k = m.lookup k := by
  induction xs with
  | nil => intro m; rfl
  | cons x xs ih =>
    intro m
    rw [assignSome_cons, ih fun y hy => h y (List.mem_cons_of_mem _ hy)]
    cases val x with
    | none => rfl
    | some v => exact AList.lookup_insert_ne (h x List.mem_cons_self).symm

/-- When the key determines the value, the key of an element visited reads back its value, or nothing. -/
theorem lookup_assignSome (key : α → K) (val : α → Option V) {x : α} {xs : List α}
    (hu : ∀ y ∈ xs, key y = key x → val y = val x) :
    ∀ m : GoMap K V, (m.lookup (key x) = none ∧ x ∈ xs) ∨ m.lookup (key x) = val x →
      (assignSome key val m xs).lookup (key x) = val x := by
  induction xs with
  | nil => rintro m (⟨_, h⟩ | h) <;> simp_all
  | cons y xs ih =>
    intro m hm
    have ih' := ih fun z hz => hu z (List.mem_cons_of_mem _ hz)
    rw [assignSome_cons]
    by_cases hk : key y = key x
    · rw [hu y List.mem_cons_self hk, hk]
      refine ih' _ (.inr ?_)
      cases hv : val x with
      | none => rcases hm with ⟨h, _⟩ | h <;> simp [h, hv]
      | some v => exact AList.lookup_insert m
    · have hi : (match val y with | some v => m.insert (key y) v | none => m).lookup (key x) = m.lookup (key x) := by
        cases val y with
        | none => rfl
        | some v => exact AList.lookup_insert_ne (Ne.symm hk)
      refine ih' _ (hm.imp (fun ⟨h, hx⟩ => ⟨hi.trans h, ?_⟩) hi.trans)
      exact (List.mem_cons.1 hx).resolve_left fun h => hk (h ▸ rfl)

/-- When the key determines the value, the order of the assignments does not show. -/
theorem lookup_assignSome_perm (key : α → K) (val : α → Option V) {xs ys : List α}
    (hu : ∀ x ∈ xs, ∀ y ∈ xs, key x = key y → val x = val y) (h : ys.Perm xs) (k : K) :
    (assignSome key val (∅ : GoMap K V) ys).lookup k = (assignSome key val (∅ : GoMap K V) xs).lookup k := by
  by_cases hk : ∃ x ∈ xs, key x = k
  · obtain ⟨x, hx, rfl⟩ := hk
    rw [lookup_assignSome key val (fun y hy => hu y (h.mem_iff.1 hy) x hx) ∅ (.inl ⟨rfl, h.mem_iff.2 hx⟩),
      lookup_assignSome key val (fun y hy => hu y hy x hx) ∅ (.inl ⟨rfl, hx⟩)]
  · have hxs : ∀ x ∈ xs, key x ≠ k := fun x hx he => hk ⟨x, hx, he⟩
    rw [lookup_assignSome_of_notMem key val k ys (fun y hy => hxs y (h.mem_iff.1 hy)),
      lookup_assignSome_of_notMem key val k xs hxs]

/-! ## Maps of lists -/

/-- A loop of `m[k] = append(m[k], v)`. -/
theorem get_foldl_append (l : List (K × V)) : ∀ (m : GoMap K (List V)) (k : K),
    (l.foldl (fun m e => m.insert e.1 (m.get e.1 [] ++ [e.2])) m).get k [] =
      m.get k [] ++ (l.filter fun e => e.1 = k).map Prod.snd := by
  induction l with
  | nil => intro m k; simp
  | cons e l ih =>
    intro m k
    rw [List.foldl_cons, ih]
    by_cases h : e.1 = k
    · subst h
      simp
    · rw [get_insert_ne _ _ _ (Ne.symm h)]
      simp [h]

end GoMap

/-! ## Iteration order -/

/-- An order for every execution of every `range` loop over a map; `site`
names the execution. -/
class MapOrder where
  range {K V : Type} (site : List String) (m : GoMap K V) : List (K × V)
  range_perm {K V : Type} (site : List String) (m : GoMap K V) : (range site m).Perm m.toList

/-- The order in which the maps store their entries. -/
@[reducible] def storedOrder : MapOrder where
  range _ m := m.toList
  range_perm _ _ := .refl _

theorem mem_range [MapOrder] {K V : Type} [DecidableEq K] {site : List String} {m : GoMap K V} {k : K} {v : V} :
    (k, v) ∈ MapOrder.range site m ↔ m.lookup k = some v := by
  rw [(MapOrder.range_perm site m).mem_iff, GoMap.mem_toList]

/-- Two loops over maps with the same reads visit the same entries. -/
theorem range_perm_of_lookup_eq {K V : Type} [DecidableEq K] (o o' : MapOrder) (site site' : List String)
    {m m' : GoMap K V} (h : ∀ k, m.lookup k = m'.lookup k) : (o.range site m).Perm (o'.range site' m') :=
  (o.range_perm site m).trans ((GoMap.toList_perm_of_lookup_eq h).trans (o'.range_perm site' m').symm)

/-- A new key is one more entry. -/
theorem range_insert_perm [MapOrder] {K V : Type} [DecidableEq K] (site : List String) {m : GoMap K V} {k : K}
    (hk : m.lookup k = none) (v : V) : (MapOrder.range site (m.insert k v)).Perm ((k, v) :: MapOrder.range site m) := by
  have hentries : GoMap.toList (m.insert k v) = (k, v) :: m.toList := by
    rw [GoMap.toList, AList.entries_insert_of_notMem (AList.lookup_eq_none.1 hk)]
    rfl
  exact (MapOrder.range_perm _ _).trans (hentries ▸ ((MapOrder.range_perm site m).symm.cons _))

/-- When the results carry their keys, it does not matter for a search by key in what order they were collected. -/
theorem find?_filterMap_range {K V β : Type} [DecidableEq K] (o o' : MapOrder) (site site' : List String)
    {m : GoMap K V} {f : K × V → Option β} {key : β → K}
    (h : ∀ k v b, m.lookup k = some v → f (k, v) = some b → key b = k) (k : K) :
    ((o.range site m).filterMap f).find? (fun b => key b = k) =
      ((o'.range site' m).filterMap f).find? (fun b => key b = k) := by
  refine find?_eq_of_perm ((range_perm_of_lookup_eq o o' site site' fun _ => rfl).filterMap f) ?_
  intro b hb b' hb' hk hk'
  obtain ⟨⟨k₁, v⟩, hm, hf⟩ := List.mem_filterMap.1 hb
  obtain ⟨⟨k₂, v'⟩, hm', hf'⟩ := List.mem_filterMap.1 hb'
  have hl := (@mem_range o K V _ site m _ _).1 hm
  have hl' := (@mem_range o K V _ site m _ _).1 hm'
  obtain rfl : k₁ = k := (h _ _ _ hl hf).symm.trans (of_decide_eq_true hk)
  obtain rfl : k₂ = k₁ := (h _ _ _ hl' hf').symm.trans (of_decide_eq_true hk')
  obtain rfl : v = v' := Option.some.inj (hl.symm.trans hl')
  exact Option.some.inj (hf.symm.trans hf')

/-- A loop that copies the entries whose value satisfies `p`. -/
theorem lookup_copy [MapOrder] {K V : Type} [DecidableEq K] (site : List String) (m : GoMap K V) (p : V → Bool) (k : K) :
    (GoMap.assignAll Prod.fst Prod.snd (∅ : GoMap K V) ((MapOrder.range site m).filter fun e => p e.2)).lookup k =
      (m.lookup k).filter p := by
  have hmem : ∀ e, e ∈ (MapOrder.range site m).filter (fun e => p e.2) ↔ m.lookup e.1 = some e.2 ∧ p e.2 = true := by
    rintro ⟨k, v⟩
    rw [List.mem_filter, mem_range]
  by_cases hk : ∃ v, m.lookup k = some v ∧ p v = true
  · obtain ⟨v, hv, hp⟩ := hk
    have hin := (hmem (k, v)).2 ⟨hv, hp⟩
    have hl := GoMap.lookup_assignAll_eq Prod.fst Prod.snd hin (fun e he hek => ?_) ∅
    · rw [hl, hv, Option.filter, if_pos hp]
    · have he' := ((hmem e).1 he).1
      rw [hek, hv] at he'
      exact (Option.some.inj he').symm
  · rw [GoMap.lookup_assignAll_of_notMem _ _ k _ fun e he hek => hk ⟨e.2, hek ▸ (hmem e).1 he⟩]
    cases hv : m.lookup k with
    | none => rfl
    | some v =>
      rw [Option.filter, if_neg fun hp => hk ⟨v, hv, hp⟩]
      rfl

theorem nodup_range_keys [MapOrder] {K V : Type} (site : List String) (m : GoMap K V) :
    ((MapOrder.range site m).map Prod.fst).Nodup := by
  rw [((MapOrder.range_perm site m).map Prod.fst).nodup_iff, GoMap.keys_toList]
  exact m.keys_nodup

/-- When the values carry their keys, the values visited are distinct. -/
theorem nodup_range_values [MapOrder] {K V : Type} [DecidableEq K] (site : List String) (key : V → K) {m : GoMap K V}
    (h : ∀ k v, m.lookup k = some v → key v = k) : ((MapOrder.range site m).map Prod.snd).Nodup := by
  have hkeys := nodup_range_keys site m
  have hfst : (MapOrder.range site m).map Prod.fst = ((MapOrder.range site m).map Prod.snd).map key := by
    rw [List.map_map]
    exact List.map_congr_left fun e he => (h e.1 e.2 (mem_range.1 he)).symm
  rw [hfst] at hkeys
  exact hkeys.of_map

/-- They are elements of any list that has them all. -/
theorem range_values_subperm [MapOrder] {K V : Type} [DecidableEq K] (site : List String) (key : V → K)
    {m : GoMap K V} {l : List V} (h : ∀ k v, m.lookup k = some v → key v = k ∧ v ∈ l) :
    ((MapOrder.range site m).map Prod.snd).Subperm l := by
  refine List.subperm_of_subset (nodup_range_values site key fun k v hv => (h k v hv).1) fun v hv => ?_
  obtain ⟨e, he, rfl⟩ := List.mem_map.1 hv
  exact (h e.1 e.2 (mem_range.1 he)).2

/-- And all of a list whose elements are stored under their keys. -/
theorem range_values_perm [MapOrder] {K V : Type} [DecidableEq K] (site : List String) (key : V → K) {m : GoMap K V}
    {l : List V} (hl : l.Nodup) (h : ∀ k v, m.lookup k = some v ↔ v ∈ l ∧ key v = k) :
    ((MapOrder.range site m).map Prod.snd).Perm l := by
  rw [List.perm_ext_iff_of_nodup (nodup_range_values site key fun k v hv => ((h k v).1 hv).2) hl]
  intro v
  rw [List.mem_map]
  constructor
  · rintro ⟨e, he, rfl⟩
    exact ((h e.1 e.2).1 (mem_range.1 he)).1
  · intro hv
    exact ⟨(key v, v), mem_range.2 ((h _ _).2 ⟨hv, rfl⟩), rfl⟩

end SingboxOperator.Lib
