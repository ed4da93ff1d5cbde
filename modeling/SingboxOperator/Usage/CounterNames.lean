import SingboxOperator.Engine.Spec
import SingboxOperator.Usage.Collector
/-!
# Counter names and their two parsers

The config engine names a virtual user, sing-box names its counters after it,
and the collector reads user, node and direction back. `parseUserCounterName`
takes the prefix off and cuts at the first `#`; `normalizeCounterName` splits the
whole name and cuts at the last one. They differ on names that no virtual user
has: without `#`, with more than one, or with nothing on a side of it.
-/
open SingboxOperator.Lib

namespace SingboxOperator.Usage

def Direction.name : Direction → String
  | .uplink => "uplink"
  | .downlink => "downlink"

/-- The counter of a virtual user in sing-box. -/
def counterName (user node : String) (direction : Direction) : String :=
  "user>>>" ++ virtualUserName user node ++ ">>>traffic>>>" ++ direction.name

/-- A name without exactly one user and one node is refused. -/
def normalizeCounterName (counter : String) : Option (String × String × Direction) :=
  match split ">>>".toList counter.toList with
  | [scope, virtualUser, kind, direction] =>
    if scope ≠ "user".toList then none
    else if kind ≠ "traffic".toList then none
    else
      -- hashIdx <= 0 || hashIdx == len(virtualUser)-1
      match cutLast '#' virtualUser with
      | none => none
      | some (userName, nodeName) =>
        if userName = [] ∨ nodeName = [] then none
        else (parseDirection direction).map fun d => (String.ofList userName, String.ofList nodeName, d)
  | _ => none

/-- The part of a counter name between the first two separators. -/
def virtualUserPart (counter : String) : List Char := (split ">>>".toList counter.toList).getD 1 []

/-! ## Splitting a counter name -/

theorem parseDirection_eq_some {s : List Char} {d : Direction} : parseDirection s = some d ↔ s = d.name.toList := by
  unfold parseDirection
  constructor
  · intro h
    split at h
    · rename_i hs
      rw [hs, ← Option.some.inj h]
      rfl
    · split at h
      · rename_i hs
        rw [hs, ← Option.some.inj h]
        rfl
      · cases h
  · rintro rfl
    cases d <;> rfl

/-- What the separator is made of is in no part that has no `>`. -/
theorem notMem_separator {a : List Char} (h : '>' ∉ a) : ∀ c ∈ a, c ∉ ">>>".toList := by
  intro c hc hmem
  obtain rfl : c = '>' := by simpa using hmem
  exact h hc

theorem split_separator_append {a : List Char} (h : '>' ∉ a) (s : List Char) :
    split ">>>".toList (a ++ (">>>".toList ++ s)) = a :: split ">>>".toList s :=
  split_append (by decide) (notMem_separator h) s

/-- The parts of a counter name whose virtual user has no `>`. -/
theorem split_counter {v : List Char} (h : '>' ∉ v) (d : Direction) :
    split ">>>".toList (v ++ (">>>".toList ++ ("traffic".toList ++ (">>>".toList ++ d.name.toList)))) =
      [v, "traffic".toList, d.name.toList] := by
  have hd : '>' ∉ d.name.toList := by cases d <;> decide
  rw [split_separator_append h, split_separator_append (by decide),
    split_eq_singleton (by decide) (notMem_separator hd)]

theorem isUserCounter_iff {name : String} :
    isUserCounter name = true ↔ ∃ rest, name.toList = "user>>>".toList ++ rest := by
  unfold isUserCounter
  rw [ List.isPrefixOf_iff_prefix]
  exact ⟨fun ⟨rest, h⟩ => ⟨rest, h.symm⟩, fun ⟨rest, h⟩ => ⟨rest, h.symm⟩⟩

/-- `parseUserCounterName` on the parts behind the prefix. -/
theorem parseUserCounterName_of_split {name : String} {rest user node : List Char} {d : Direction}
    (hname : name.toList = "user".toList ++ (">>>".toList ++ rest))
    (hsplit : split ">>>".toList rest = [user ++ '#' :: node, "traffic".toList, d.name.toList]) (huser : '#' ∉ user) :
    parseUserCounterName name = some (String.ofList user, String.ofList node, d) := by
  rw [← List.append_assoc] at hname
  have hprefix : isUserCounter name = true := isUserCounter_iff.2 ⟨rest, hname⟩
  have hcut : cut '#' (user ++ '#' :: node) = some (user, node) := cut_eq_some.2 ⟨rfl, huser⟩
  have hdir : parseDirection d.name.toList = some d := parseDirection_eq_some.2 rfl
  have hrest : name.toList.drop "user>>>".toList.length = rest := by
    rw [hname]
    exact List.drop_left' rfl
  rw [parseUserCounterName, hprefix, hrest, hsplit]
  simp [hcut, hdir]

/-- What `normalizeCounterName` accepts: a user and a node that are not empty, cut at the last `#`. -/
theorem normalizeCounterName_eq_some {name user node : String} {d : Direction} :
    normalizeCounterName name = some (user, node, d) ↔
      split ">>>".toList name.toList =
        ["user".toList, user.toList ++ '#' :: node.toList, "traffic".toList, d.name.toList] ∧
      user.toList ≠ [] ∧ node.toList ≠ [] ∧ '#' ∉ node.toList := by
  unfold normalizeCounterName
  constructor
  · intro h
    split at h
    · rename_i scope virtualUser kind direction hsplit
      split at h
      · cases h
      · rename_i hscope
        split at h
        · cases h
        · rename_i hkind
          split at h
          · cases h
          · rename_i userName nodeName hcut
            split at h
            · cases h
            · rename_i hne
              obtain ⟨d', hd', heq⟩ := Option.map_eq_some_iff.1 h
              obtain ⟨rfl, hrest⟩ := Prod.mk.inj heq
              obtain ⟨rfl, rfl⟩ := Prod.mk.inj hrest
              obtain ⟨hv, hnode⟩ := cutLast_eq_some.1 hcut
              simp only [not_or] at hne
              simp only [String.toList_ofList]
              rw [hsplit, not_not.1 hscope, not_not.1 hkind, parseDirection_eq_some.1 hd', hv]
              exact ⟨rfl, hne.1, hne.2, hnode⟩
    · cases h
  · rintro ⟨hsplit, huser, hnode, hhash⟩
    have hcut : cutLast '#' (user.toList ++ '#' :: node.toList) = some (user.toList, node.toList) :=
      cutLast_eq_some.2 ⟨rfl, hhash⟩
    have hdir : parseDirection d.name.toList = some d := parseDirection_eq_some.2 rfl
    rw [hsplit]
    simp only [ne_eq, not_true_eq_false, if_false, hcut, huser, hnode, or_self, hdir, Option.map_some,
      String.ofList_toList]

/-! ## Round trips -/

theorem toList_counterName (user node : String) (d : Direction) :
    (counterName user node d).toList = "user".toList ++ (">>>".toList ++ ((user.toList ++ '#' :: node.toList) ++
      (">>>".toList ++ ("traffic".toList ++ (">>>".toList ++ d.name.toList))))) := by
  simp [counterName, virtualUserName]

theorem gt_notMem_virtualUser (u t : ObjectMeta) : '>' ∉ u.name.toList ++ '#' :: t.name.toList := by
  have hu : '>' ∉ u.name.toList := u.notMem_name (by decide)
  have ht : '>' ∉ t.name.toList := t.notMem_name (by decide)
  simp [hu, ht]

theorem parseUserCounterName_counterName (u t : ObjectMeta) (d : Direction) :
    parseUserCounterName (counterName u.name t.name d) = some (u.name, t.name, d) := by
  have hsplit := split_counter (gt_notMem_virtualUser u t) d
  simpa using parseUserCounterName_of_split (toList_counterName u.name t.name d) hsplit (u.notMem_name (by decide))

theorem normalizeCounterName_counterName (u t : ObjectMeta) (d : Direction) :
    normalizeCounterName (counterName u.name t.name d) = some (u.name, t.name, d) := by
  have hsplit := split_counter (gt_notMem_virtualUser u t) d
  refine normalizeCounterName_eq_some.2 ⟨?_, ?_, ?_, t.notMem_name (by decide)⟩
  · rw [toList_counterName, split_separator_append (by decide), hsplit]
  · exact fun h => u.name_ne_empty (String.toList_eq_nil_iff.1 h)
  · exact fun h => t.name_ne_empty (String.toList_eq_nil_iff.1 h)

/-- A name that is accepted is the one its parts are put together to. -/
theorem counterName_of_normalize {name user node : String} {d : Direction}
    (h : normalizeCounterName name = some (user, node, d)) : counterName user node d = name := by
  obtain ⟨hsplit, -⟩ := normalizeCounterName_eq_some.1 h
  have hsep : ">>>".toList ≠ [] := by decide
  have hjoin := intercalate_split hsep name.toList
  refine String.toList_inj.1 ?_
  rw [← hjoin, hsplit, toList_counterName]
  simp [List.intercalate, List.intersperse]

/-- With one `#` the first is the last, and both parsers cut at it. -/
theorem hash_notMem_of_count {user node : List Char} (h : (user ++ '#' :: node).count '#' = 1) : '#' ∉ user := by
  rw [List.count_append, List.count_cons_self] at h
  exact List.count_eq_zero.1 (by omega)

theorem parse_of_normalize {name user node : String} {d : Direction}
    (h : normalizeCounterName name = some (user, node, d)) (hcount : (virtualUserPart name).count '#' = 1) :
    parseUserCounterName name = some (user, node, d) := by
  obtain ⟨hsplit, -⟩ := normalizeCounterName_eq_some.1 h
  have huser : '#' ∉ user.toList := by
    rw [virtualUserPart, hsplit] at hcount
    exact hash_notMem_of_count hcount
  have hname := congrArg String.toList (counterName_of_normalize h)
  rw [toList_counterName] at hname
  -- the rest of the name is split the way the whole name is
  rw [← hname, split_separator_append (by decide)] at hsplit
  simpa using parseUserCounterName_of_split hname.symm (List.cons.inj hsplit).2 huser

/-- The counter of every user and target is read back by both parsers, and what
`normalizeCounterName` accepts with one `#` is read the same by the other one
and is the counter of what was read. -/
theorem counterName_roundTrip :
    (∀ (u t : ObjectMeta) (d : Direction),
      parseUserCounterName (counterName u.name t.name d) = some (u.name, t.name, d) ∧
      normalizeCounterName (counterName u.name t.name d) = some (u.name, t.name, d)) ∧
    ∀ (name user node : String) (d : Direction), normalizeCounterName name = some (user, node, d) →
      (virtualUserPart name).count '#' = 1 →
      parseUserCounterName name = some (user, node, d) ∧ counterName user node d = name := by
  constructor
  · intro u t d
    exact ⟨parseUserCounterName_counterName u t d, normalizeCounterName_counterName u t d⟩
  · intro name user node d h hcount
    exact ⟨parse_of_normalize h hcount, counterName_of_normalize h⟩

theorem counterName_roundTrip_frank :
    normalizeCounterName "user>>>frank#fr-out>>>traffic>>>uplink" = some ("frank", "fr-out", .uplink) ∧
    parseUserCounterName "user>>>frank#fr-out>>>traffic>>>uplink" = some ("frank", "fr-out", .uplink) ∧
    counterName "frank" "fr-out" .uplink = "user>>>frank#fr-out>>>traffic>>>uplink" := by
  have h : normalizeCounterName "user>>>frank#fr-out>>>traffic>>>uplink" = some ("frank", "fr-out", .uplink) := by
    decide
  exact ⟨h, counterName_roundTrip.2 _ _ _ _ h (by decide)⟩

end SingboxOperator.Usage
