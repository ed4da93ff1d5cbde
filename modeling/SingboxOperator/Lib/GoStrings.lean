import Mathlib.Data.List.TakeWhile
import Mathlib.Data.String.Basic
import SingboxOperator.Lib.Digest
/-!
# Splitting texts and reading numbers

`strings.SplitN`, `strings.Cut` and the cut at `strings.LastIndex` on one
character, `strings.Split` on a text and `strconv.Atoi`, on the characters of a
text, with what they return on texts put together with that separator. And `%q`, which the messages of the
controllers use.
-/

namespace SingboxOperator.Lib

/-! ## Splitting -/

/-- At most `n` parts: the last one keeps the separators that are left. -/
def splitN (sep : Char) : Nat → List Char → List (List Char)
  | 0, _ => []
  | 1, s => [s]
  | n + 2, s =>
    match s.dropWhile (· ≠ sep) with
    | [] => [s]
    | _ :: rest => s.takeWhile (· ≠ sep) :: splitN sep (n + 1) rest

variable {sep : Char}

theorem splitN_append_cons {a : List Char} (h : sep ∉ a) (n : Nat) (b : List Char) :
    splitN sep (n + 2) (a ++ sep :: b) = a :: splitN sep (n + 1) b := by
  have ha : ∀ c ∈ a, decide (c ≠ sep) = true := by
    intro c hc
    simpa using fun he : c = sep => h (he ▸ hc)
  rw [splitN, List.dropWhile_append_of_pos ha, List.takeWhile_append_of_pos ha]
  simp

/-- Before and after the first separator, if there is one. -/
def cut (sep : Char) (s : List Char) : Option (List Char × List Char) :=
  match s.dropWhile (· ≠ sep) with
  | [] => none
  | _ :: rest => some (s.takeWhile (· ≠ sep), rest)

theorem cut_eq_some {s a b : List Char} : cut sep s = some (a, b) ↔ s = a ++ sep :: b ∧ sep ∉ a := by
  unfold cut
  constructor
  · intro h
    have hs := List.takeWhile_append_dropWhile (p := (· ≠ sep)) (l := s)
    split at h
    · cases h
    · rename_i c rest hdrop
      obtain ⟨rfl, rfl⟩ := Prod.mk.inj (Option.some.inj h)
      have hc := List.head?_dropWhile_not (· ≠ sep) s
      rw [hdrop] at hs hc
      obtain rfl : c = sep := by simpa using hc
      refine ⟨hs.symm, fun hmem => ?_⟩
      simpa using List.mem_takeWhile_imp hmem
  · rintro ⟨rfl, ha⟩
    have ha' : ∀ c ∈ a, decide (c ≠ sep) = true := by
      intro c hc
      simpa using fun he : c = sep => ha (he ▸ hc)
    rw [List.dropWhile_append_of_pos ha', List.takeWhile_append_of_pos ha']
    simp

/-- Before and after the last separator, if there is one. -/
def cutLast (sep : Char) (s : List Char) : Option (List Char × List Char) :=
  (cut sep s.reverse).map fun p => (p.2.reverse, p.1.reverse)

theorem cutLast_eq_some {s a b : List Char} : cutLast sep s = some (a, b) ↔ s = a ++ sep :: b ∧ sep ∉ b := by
  have hrev : s = a ++ sep :: b ↔ s.reverse = b.reverse ++ sep :: a.reverse := by
    rw [← List.reverse_inj]
    simp
  rw [hrev, ← List.mem_reverse, ← cut_eq_some, cutLast, Option.map_eq_some_iff]
  constructor
  · rintro ⟨⟨x, y⟩, h, heq⟩
    obtain ⟨rfl, rfl⟩ := Prod.mk.inj heq
    simpa using h
  · intro h
    exact ⟨_, h, by simp⟩

/-- The parts that are left, after `skip` more characters of a separator and with `part` read of the next one. -/
def splitFrom (sep : List Char) : Nat → List Char → List Char → List (List Char)
  | _, part, [] => [part.reverse]
  | skip + 1, part, _ :: s => splitFrom sep skip part s
  | 0, part, c :: s =>
    if sep.isPrefixOf (c :: s) then part.reverse :: splitFrom sep (sep.length - 1) [] s
    else splitFrom sep 0 (c :: part) s

/-- `strings.Split` with a separator that is not empty. -/
def split (sep s : List Char) : List (List Char) := splitFrom sep 0 [] s

section
variable {sep a s : List Char}

theorem splitFrom_skip (skip : Nat) (part s : List Char) :
    splitFrom sep skip part s = splitFrom sep 0 part (s.drop skip) := by
  induction s generalizing skip with
  | nil => rw [List.drop_nil, splitFrom, splitFrom]
  | cons c s ih =>
    cases skip with
    | zero => rfl
    | succ skip => rw [splitFrom, ih, List.drop_succ_cons]

/-- What has nothing of the separator is read into the next part. -/
theorem splitFrom_append (hsep : sep ≠ []) (h : ∀ c ∈ a, c ∉ sep) (part : List Char) :
    splitFrom sep 0 part (a ++ s) = splitFrom sep 0 (a.reverse ++ part) s := by
  induction a generalizing part with
  | nil => rfl
  | cons c a ih =>
    have hc : sep.isPrefixOf (c :: (a ++ s)) = false := by
      cases sep with
      | nil => exact absurd rfl hsep
      | cons d ds =>
        have hd : d ≠ c := fun he => h c List.mem_cons_self (he ▸ List.mem_cons_self)
        simp [List.isPrefixOf, hd]
    rw [List.cons_append, splitFrom, hc, if_neg (by simp), ih fun c' hc' => h c' (List.mem_cons_of_mem _ hc'),
      List.reverse_cons, List.append_assoc]
    rfl

theorem split_eq_singleton (hsep : sep ≠ []) (h : ∀ c ∈ a, c ∉ sep) : split sep a = [a] := by
  have heq := splitFrom_append hsep h (s := []) []
  rw [List.append_nil, List.append_nil] at heq
  rw [split, heq, splitFrom, List.reverse_reverse]

theorem split_append (hsep : sep ≠ []) (h : ∀ c ∈ a, c ∉ sep) (s : List Char) :
    split sep (a ++ (sep ++ s)) = a :: split sep s := by
  rw [split, splitFrom_append hsep h, List.append_nil]
  cases hs : sep with
  | nil => exact absurd hs hsep
  | cons d ds =>
    have hfound : (d :: ds).isPrefixOf (d :: (ds ++ s)) = true :=
      List.isPrefixOf_iff_prefix.2 (List.prefix_append (d :: ds) s)
    rw [List.cons_append, splitFrom, if_pos hfound, splitFrom_skip]
    simp [split]

theorem splitFrom_ne_nil (skip : Nat) (part s : List Char) : splitFrom sep skip part s ≠ [] := by
  rw [splitFrom_skip]
  generalize s.drop skip = s
  induction s generalizing part with
  | nil => simp [splitFrom]
  | cons c s ih =>
    rw [splitFrom]
    split
    · simp
    · exact ih _

/-- Joining the parts gives the text back. -/
theorem intercalate_splitFrom (hsep : sep ≠ []) (skip : Nat) (part s : List Char) :
    sep.intercalate (splitFrom sep skip part s) = part.reverse ++ s.drop skip := by
  induction s generalizing skip part with
  | nil => simp [splitFrom]
  | cons c s ih =>
    cases skip with
    | succ skip => rw [splitFrom, ih, List.drop_succ_cons]
    | zero =>
      rw [splitFrom]
      split
      · rename_i hfound
        obtain ⟨rest, hrest⟩ := List.isPrefixOf_iff_prefix.1 hfound
        have hdrop : s.drop (sep.length - 1) = rest := by
          cases sep with
          | nil => exact absurd rfl hsep
          | cons d ds =>
            obtain ⟨_, rfl⟩ := List.cons.inj hrest
            simp
        obtain ⟨p, ps, hps⟩ := List.exists_cons_of_ne_nil (@splitFrom_ne_nil sep (sep.length - 1) [] s)
        have htail := ih (sep.length - 1) []
        rw [hps] at htail ⊢
        rw [List.intercalate_cons_cons, htail, hdrop, List.drop_zero, ← hrest]
        simp
      · rw [ih]
        simp

theorem intercalate_split (hsep : sep ≠ []) (s : List Char) : sep.intercalate (split sep s) = s :=
  intercalate_splitFrom hsep 0 [] s

end

/-! ## Numbers -/

/-- A number without a sign. -/
def digits (s : List Char) : Option Nat :=
  if s ≠ [] ∧ s.all Char.isDigit = true then some (Nat.ofDigitChars 10 s 0) else none

/-- A number after its sign, within 64 bits. -/
def signed (negative : Bool) (s : List Char) : Option Int :=
  (digits s).bind fun n =>
    if negative then if n ≤ 2 ^ 63 then some (-(n : Int)) else none
    else if n < 2 ^ 63 then some (n : Int) else none

/-- `strconv.Atoi`. -/
def atoi : List Char → Option Int
  | '-' :: s => signed true s
  | '+' :: s => signed false s
  | s => signed false s

theorem digits_toDigits (n : Nat) : digits (Nat.toDigits 10 n) = some n := by
  have hd : (Nat.toDigits 10 n).all Char.isDigit = true := by
    rw [List.all_eq_true]
    exact fun c hc => Nat.isDigit_of_mem_toDigits (by decide) (by decide) hc
  rw [digits, if_pos ⟨Nat.toDigits_ne_nil, hd⟩, Nat.ofDigitChars_toDigits (by decide) (by decide)]

theorem atoi_toDigits {n : Nat} (h : n < 2 ^ 63) : atoi (Nat.toDigits 10 n) = some (n : Int) := by
  have hread : signed false (Nat.toDigits 10 n) = some (n : Int) := by
    rw [signed, digits_toDigits, Option.bind_some, if_neg (by simp), if_pos h]
  cases hs : Nat.toDigits 10 n with
  | nil => exact absurd hs Nat.toDigits_ne_nil
  | cons c ds =>
    have hdigit : c.isDigit = true :=
      Nat.isDigit_of_mem_toDigits (b := 10) (n := n) (by decide) (by decide) (by rw [hs]; exact List.mem_cons_self)
    rw [hs] at hread
    unfold atoi
    -- a digit is no sign
    split
    · rename_i heq
      rw [(List.cons.inj heq).1] at hdigit
      exact absurd hdigit (by decide)
    · rename_i heq
      rw [(List.cons.inj heq).1] at hdigit
      exact absurd hdigit (by decide)
    · exact hread

/-- A text with something that is neither a digit nor a sign is no number. -/
theorem atoi_of_mem {s : List Char} {c : Char} (hc : c ∈ s) (hd : c.isDigit = false) (hm : c ≠ '-') (hp : c ≠ '+') :
    atoi s = none := by
  have hnone : ∀ (negative : Bool) (ds : List Char), c ∈ ds → signed negative ds = none := by
    intro negative ds hmem
    rw [signed, digits, if_neg]
    · rfl
    · rintro ⟨_, hall⟩
      rw [List.all_eq_true] at hall
      simp [hall c hmem] at hd
  unfold atoi
  split
  · exact hnone _ _ ((List.mem_cons.1 hc).resolve_left hm)
  · exact hnone _ _ ((List.mem_cons.1 hc).resolve_left hp)
  · exact hnone _ _ hc

/-! ## Quoting -/

def quoteChar (c : Char) : List Char :=
  let backslash := Char.ofNat 92
  match c.toNat with
  | 7 => [backslash, 'a']
  | 8 => [backslash, 'b']
  | 9 => [backslash, 't']
  | 10 => [backslash, 'n']
  | 11 => [backslash, 'v']
  | 12 => [backslash, 'f']
  | 13 => [backslash, 'r']
  | 34 | 92 => [backslash, c]
  | n => if n < 32 || n = 127 then [backslash, 'x', hexDigit (n / 16), hexDigit (n % 16)] else [c]

/-- `%q`, with every character above ASCII taken for printable. -/
def quote (s : String) : String :=
  String.ofList (Char.ofNat 34 :: (s.toList.flatMap quoteChar ++ [Char.ofNat 34]))

end SingboxOperator.Lib
