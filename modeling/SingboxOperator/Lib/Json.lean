import Mathlib.Data.String.Basic
import SingboxOperator.Lib.Lists
/-!
# JSON text as Go's `encoding/json` writes it

`Json.render` is `json.Marshal` on values made of objects, arrays, strings,
integers and booleans: no blanks, and strings escaped with the HTML-safe
table. An object made from a Go map lists its keys in order (`Json.ofMap`), one
made from a struct in the order of its fields.
-/

namespace SingboxOperator.Lib

inductive Json
  | null
  | bool (b : Bool)
  | num (n : Int)
  | str (s : String)
  | arr (items : List Json)
  | obj (fields : List (String × Json))

namespace Json

def hexLower (n : Nat) : Char := if n < 10 then Char.ofNat (48 + n) else Char.ofNat (87 + n)

/-- The escape of one character inside a string. -/
def escChar (c : Char) : List Char :=
  if c = '"' then ['\\', '"']
  else if c = '\\' then ['\\', '\\']
  else if c = '\x08' then ['\\', 'b']
  else if c = '\x0c' then ['\\', 'f']
  else if c = '\n' then ['\\', 'n']
  else if c = '\r' then ['\\', 'r']
  else if c = '\t' then ['\\', 't']
  else if c.toNat < 32 ∨ c = '<' ∨ c = '>' ∨ c = '&' then
    ['\\', 'u', '0', '0', hexLower (c.toNat / 16), hexLower (c.toNat % 16)]
  else if c = '\u2028' then ['\\', 'u', '2', '0', '2', '8']
  else if c = '\u2029' then ['\\', 'u', '2', '0', '2', '9']
  else [c]

def quote (s : String) : List Char := '"' :: (s.toList.flatMap escChar ++ ['"'])

def renderInt : Int → List Char
  | .ofNat n => Nat.toDigits 10 n
  | .negSucc n => '-' :: Nat.toDigits 10 (n + 1)

mutual

def renderChars : Json → List Char
  | .null => ['n', 'u', 'l', 'l']
  | .bool true => ['t', 'r', 'u', 'e']
  | .bool false => ['f', 'a', 'l', 's', 'e']
  | .num n => renderInt n
  | .str s => quote s
  | .arr [] => ['[', ']']
  | .arr (x :: xs) => '[' :: (renderChars x ++ renderItems xs)
  | .obj [] => ['{', '}']
  | .obj ((k, v) :: fs) => '{' :: (quote k ++ ':' :: (renderChars v ++ renderFields fs))

/-- The items after the first one, and the closing bracket. -/
def renderItems : List Json → List Char
  | [] => [']']
  | x :: xs => ',' :: (renderChars x ++ renderItems xs)

def renderFields : List (String × Json) → List Char
  | [] => ['}']
  | (k, v) :: fs => ',' :: (quote k ++ ':' :: (renderChars v ++ renderFields fs))

end

/-- `json.Marshal`. -/
def render (v : Json) : String := String.ofList v.renderChars

/-- A Go map: its keys in order. -/
def ofMap (fields : List (String × Json)) : Json := .obj (sortOn Prod.fst fields)

/-- A field that is left out when it is absent. -/
def optional (key : String) (v : Option Json) : List (String × Json) := (v.map fun x => (key, x)).toList

def strs (l : List String) : Json := .arr (l.map .str)

/-! ## Reading a value -/

/-- The first field with that key. -/
def field (key : String) : Json → Option Json
  | .obj fields => (fields.find? fun f => f.1 = key).map Prod.snd
  | _ => none

def asStr : Json → String
  | .str s => s
  | _ => ""

def asList : Json → List Json
  | .arr items => items
  | _ => []

def asBool : Json → Bool
  | .bool b => b
  | _ => false

def asNat : Json → Nat
  | .num n => n.toNat
  | _ => 0

theorem asStrs_strs (l : List String) : (strs l).asList.map asStr = l := by
  simp [strs, asList, asStr, Function.comp_def]

theorem optional_none (key : String) : optional key none = [] := rfl

theorem optional_some (key : String) (v : Json) : optional key (some v) = [(key, v)] := rfl

/-- The fields of a map, of which some may be absent. -/
def entries (l : List (String × Option Json)) : List (String × Json) := l.flatMap fun f => optional f.1 f.2

theorem mem_entries {l : List (String × Option Json)} {f : String × Json} : f ∈ entries l ↔ (f.1, some f.2) ∈ l := by
  simp only [entries, optional, List.mem_flatMap, Option.mem_toList, Option.map_eq_some_iff]
  constructor
  · rintro ⟨⟨k, v⟩, hm, x, rfl, rfl⟩
    exact hm
  · intro h
    exact ⟨_, h, f.2, rfl, rfl⟩

/-- A field of a map is found under its key, wherever it has been sorted to. -/
theorem field_ofMap {l : List (String × Option Json)} (hl : (l.map Prod.fst).Nodup) {key : String} {v : Option Json}
    (h : (key, v) ∈ l) : field key (ofMap (entries l)) = v := by
  have huniq : ∀ w, (key, w) ∈ l → w = v := fun w hw =>
    congrArg Prod.snd (List.inj_on_of_nodup_map hl hw h rfl)
  cases v with
  | some x =>
    have hfind : (sortOn Prod.fst (entries l)).find? (fun f => f.1 = key) = some (key, x) := by
      refine find?_eq_some_of_unique (mem_sortOn.2 (mem_entries.2 h)) (by simp) fun f hf hk => ?_
      obtain rfl : f.1 = key := by simpa using hk
      have := huniq _ (mem_entries.1 (mem_sortOn.1 hf))
      exact Prod.ext rfl (Option.some.inj this)
    rw [ofMap, field, hfind]
    rfl
  | none =>
    have hfind : (sortOn Prod.fst (entries l)).find? (fun f => f.1 = key) = none := by
      refine List.find?_eq_none.2 fun f hf hk => ?_
      obtain rfl : f.1 = key := by simpa using hk
      exact absurd (huniq _ (mem_entries.1 (mem_sortOn.1 hf))) (by simp)
    rw [ofMap, field, hfind]
    rfl

/-! ## The text determines the value

A value can be read off the front of a text. Only the digits of a number do
not say where they end, so what follows must not start with one.
-/

def hexDigitValue (c : Char) : Nat := if c.toNat < 58 then c.toNat - 48 else c.toNat - 87

/-- What an escape stands for, after its backslash. -/
def unescapeTail : List Char → Option (Char × List Char)
  | 'u' :: a :: b :: c :: d :: rest =>
    some (Char.ofNat (hexDigitValue a * 4096 + hexDigitValue b * 256 + hexDigitValue c * 16 + hexDigitValue d), rest)
  | 'b' :: rest => some ('\x08', rest)
  | 'f' :: rest => some ('\x0c', rest)
  | 'n' :: rest => some ('\n', rest)
  | 'r' :: rest => some ('\r', rest)
  | 't' :: rest => some ('\t', rest)
  | c :: rest => some (c, rest)
  | [] => none

/-- The character written at the front of the inside of a string. -/
def unescape : List Char → Option (Char × List Char)
  | [] => none
  | c :: rest => if c = '\\' then unescapeTail rest else some (c, rest)

theorem hexDigitValue_hexLower : ∀ n < 16, hexDigitValue (hexLower n) = n := by decide

theorem unescape_escChar (c : Char) (rest : List Char) : unescape (escChar c ++ rest) = some (c, rest) := by
  unfold escChar
  by_cases hquote : c = '"'
  · subst hquote; rfl
  by_cases hslash : c = '\\'
  · subst hslash; rfl
  by_cases hb : c = '\x08'
  · subst hb; rfl
  by_cases hf : c = '\x0c'
  · subst hf; rfl
  by_cases hn : c = '\n'
  · subst hn; rfl
  by_cases hr : c = '\r'
  · subst hr; rfl
  by_cases ht : c = '\t'
  · subst ht; rfl
  rw [if_neg hquote, if_neg hslash, if_neg hb, if_neg hf, if_neg hn, if_neg hr, if_neg ht]
  by_cases hctrl : c.toNat < 32 ∨ c = '<' ∨ c = '>' ∨ c = '&'
  · have hlt : c.toNat < 64 := by
      rcases hctrl with h | rfl | rfl | rfl
      · omega
      all_goals decide
    have h1 := hexDigitValue_hexLower (c.toNat / 16) (by omega)
    have h2 := hexDigitValue_hexLower (c.toNat % 16) (by omega)
    have hzero : hexDigitValue '0' = 0 := by decide
    have hsum : 0 * 4096 + 0 * 256 + c.toNat / 16 * 16 + c.toNat % 16 = c.toNat := by omega
    rw [if_pos hctrl]
    simp only [List.cons_append, List.nil_append, unescape, if_true, unescapeTail, h1, h2, hzero, hsum, Char.ofNat_toNat]
  rw [if_neg hctrl]
  by_cases hls : c = '\u2028'
  · subst hls; rfl
  by_cases hps : c = '\u2029'
  · subst hps; rfl
  rw [if_neg hls, if_neg hps]
  simp [unescape, hslash]

theorem escChar_inj {c d : Char} {r r' : List Char} (h : escChar c ++ r = escChar d ++ r') : c = d ∧ r = r' := by
  have h' := congrArg unescape h
  simpa [unescape_escChar] using h'

/-- A closing quote does not start an escaped character. -/
theorem escChar_ne_quote (c : Char) (r r' : List Char) : escChar c ++ r ≠ '"' :: r' := by
  intro h
  have h' := congrArg unescape h
  rw [unescape_escChar] at h'
  simp only [unescape, show ('"' : Char) ≠ '\\' by decide, if_false, Option.some.injEq, Prod.mk.injEq] at h'
  obtain ⟨rfl, rfl⟩ := h'
  simp [escChar] at h

theorem quote_inj {s s' : String} {r r' : List Char} (h : quote s ++ r = quote s' ++ r') : s = s' ∧ r = r' := by
  have hbody : ∀ l l' : List Char, l.flatMap escChar ++ '"' :: r = l'.flatMap escChar ++ '"' :: r' → l = l' ∧ r = r' := by
    intro l
    induction l with
    | nil =>
      intro l' h
      cases l' with
      | nil => simpa using h
      | cons c l' =>
        simp only [List.flatMap_nil, List.nil_append, List.flatMap_cons, List.append_assoc] at h
        exact absurd h.symm (escChar_ne_quote _ _ _)
    | cons c l ih =>
      intro l' h
      cases l' with
      | nil =>
        simp only [List.flatMap_nil, List.nil_append, List.flatMap_cons, List.append_assoc] at h
        exact absurd h (escChar_ne_quote _ _ _)
      | cons d l' =>
        simp only [List.flatMap_cons, List.append_assoc] at h
        obtain ⟨hc, hrest⟩ := escChar_inj h
        obtain ⟨hl, hr⟩ := ih l' hrest
        exact ⟨by rw [hc, hl], hr⟩
  simp only [quote, List.cons_append, List.append_assoc, List.nil_append, List.cons.injEq, true_and] at h
  obtain ⟨hl, hr⟩ := hbody _ _ h
  exact ⟨String.toList_inj.1 hl, hr⟩

/-- A text that does not continue a number. -/
def Delimited (r : List Char) : Prop := ∀ c ∈ r.head?, c.isDigit = false

theorem toDigits_inj {n m : Nat} {r r' : List Char} (hr : Delimited r) (hr' : Delimited r')
    (h : Nat.toDigits 10 n ++ r = Nat.toDigits 10 m ++ r') : n = m ∧ r = r' := by
  have htake : ∀ (k : Nat) (x : List Char), Delimited x →
      (Nat.toDigits 10 k ++ x).takeWhile Char.isDigit = Nat.toDigits 10 k := by
    intro k x hx
    rw [List.takeWhile_append_of_pos fun c hc => Nat.isDigit_of_mem_toDigits (by decide) (by decide) hc]
    cases x with
    | nil => simp
    | cons c x => simp [hx c (by simp)]
  have hdigits := congrArg (List.takeWhile Char.isDigit) h
  rw [htake n r hr, htake m r' hr'] at hdigits
  have hnum := congrArg (fun ds => Nat.ofDigitChars 10 ds 0) hdigits
  simp only [Nat.ofDigitChars_toDigits (show 1 < 10 by decide) (show 10 ≤ 10 by decide)] at hnum
  rw [hnum] at h
  exact ⟨hnum, List.append_cancel_left h⟩

theorem renderInt_head (n : Int) : ∃ c l, renderInt n = c :: l ∧ (c.isDigit = true ∨ c = '-') := by
  cases n with
  | ofNat n =>
    cases h : Nat.toDigits 10 n with
    | nil => exact absurd h Nat.toDigits_ne_nil
    | cons c l =>
      exact ⟨c, l, h, .inl (Nat.isDigit_of_mem_toDigits (b := 10) (n := n) (by decide) (by decide) (by rw [h]; simp))⟩
  | negSucc n => exact ⟨'-', _, rfl, .inr rfl⟩

theorem renderInt_inj {n m : Int} {r r' : List Char} (hr : Delimited r) (hr' : Delimited r')
    (h : renderInt n ++ r = renderInt m ++ r') : n = m ∧ r = r' := by
  have hminus : ∀ k l x, Nat.toDigits 10 k ++ x ≠ '-' :: l := by
    intro k l x h
    cases hd : Nat.toDigits 10 k with
    | nil => exact Nat.toDigits_ne_nil hd
    | cons c ds =>
      have hc := Nat.isDigit_of_mem_toDigits (b := 10) (n := k) (c := c) (by decide) (by decide) (by rw [hd]; simp)
      rw [hd] at h
      simp only [List.cons_append, List.cons.injEq] at h
      rw [h.1] at hc
      exact absurd hc (by decide)
  cases n with
  | ofNat n =>
    cases m with
    | ofNat m =>
      obtain ⟨hn, h'⟩ := toDigits_inj hr hr' h
      exact ⟨by rw [hn], h'⟩
    | negSucc m => exact absurd h (hminus _ _ _)
  | negSucc n =>
    cases m with
    | ofNat m => exact absurd h.symm (hminus _ _ _)
    | negSucc m =>
      simp only [renderInt, List.cons_append, List.cons.injEq, true_and] at h
      obtain ⟨hn, h'⟩ := toDigits_inj hr hr' h
      exact ⟨by rw [Nat.succ_injective hn], h'⟩

theorem toList_toString (n : Int) : (toString n).toList = renderInt n := by
  cases n with
  | ofNat n => exact String.toList_ofList
  | negSucc n =>
    change ("-" ++ (n + 1).repr).toList = _
    rw [String.toList_append]
    exact congrArg _ String.toList_ofList

theorem toString_int_inj {n m : Int} (h : toString n = toString m) : n = m := by
  have hr : Delimited [] := by simp [Delimited]
  have hrender : renderInt n ++ [] = renderInt m ++ [] := by rw [← toList_toString, ← toList_toString, h]
  exact (renderInt_inj hr hr hrender).1

/-- The first character of a value tells its kind. -/
def headKind : Json → Nat
  | .null => 0
  | .bool true => 1
  | .bool false => 2
  | .num _ => 3
  | .str _ => 4
  | .arr _ => 5
  | .obj _ => 6

def charKind (c : Char) : Nat :=
  if c = 'n' then 0 else if c = 't' then 1 else if c = 'f' then 2 else if c.isDigit ∨ c = '-' then 3
  else if c = '"' then 4 else if c = '[' then 5 else if c = '{' then 6 else 7

theorem renderChars_head (v : Json) : ∃ c l, renderChars v = c :: l ∧ charKind c = headKind v := by
  cases v with
  | null => exact ⟨_, _, rfl, by decide⟩
  | bool b => cases b <;> exact ⟨_, _, rfl, by decide⟩
  | num n =>
    obtain ⟨c, l, h, hc⟩ := renderInt_head n
    refine ⟨c, l, h, ?_⟩
    have hn : c ≠ 'n' ∧ c ≠ 't' ∧ c ≠ 'f' := by
      refine ⟨?_, ?_, ?_⟩ <;> · rintro rfl; revert hc; decide
    simp [charKind, hn, hc, headKind]
  | str s => exact ⟨_, _, rfl, by simp [headKind]; decide⟩
  | arr items => cases items <;> exact ⟨_, _, rfl, by simp [headKind]; decide⟩
  | obj fields => cases fields <;> exact ⟨_, _, rfl, by simp [headKind]; decide⟩

theorem headKind_eq {v w : Json} {r r' : List Char} (h : renderChars v ++ r = renderChars w ++ r') :
    headKind v = headKind w := by
  obtain ⟨c, l, hv, hc⟩ := renderChars_head v
  obtain ⟨d, l', hw, hd⟩ := renderChars_head w
  rw [hv, hw, List.cons_append, List.cons_append, List.cons.injEq] at h
  rw [← hc, ← hd, h.1]

/-- A closing bracket does not start a value. -/
theorem renderChars_ne_close (v : Json) (r r' : List Char) : renderChars v ++ r ≠ ']' :: r' := by
  obtain ⟨c, l, hv, hc⟩ := renderChars_head v
  intro h
  rw [hv, List.cons_append, List.cons.injEq] at h
  rw [h.1] at hc
  revert hc
  cases v with
  | bool b => cases b <;> decide
  | _ => simp only [headKind]; decide

theorem delimited_items (xs : List Json) (r : List Char) : Delimited (renderItems xs ++ r) := by
  cases xs <;> simp [Delimited, renderItems]

theorem delimited_fields (fs : List (String × Json)) (r : List Char) : Delimited (renderFields fs ++ r) := by
  cases fs <;> simp [Delimited, renderFields]

mutual

theorem renderChars_inj : ∀ (v w : Json) {r r' : List Char}, Delimited r → Delimited r' →
    renderChars v ++ r = renderChars w ++ r' → v = w ∧ r = r'
  | v, w, r, r', hr, hr', h => by
    have hk := headKind_eq h
    match v, w with
    | .null, .null => exact ⟨rfl, List.append_cancel_left h⟩
    | .bool true, .bool true => exact ⟨rfl, List.append_cancel_left h⟩
    | .bool false, .bool false => exact ⟨rfl, List.append_cancel_left h⟩
    | .num n, .num m =>
      obtain ⟨hn, hrest⟩ := renderInt_inj hr hr' h
      exact ⟨by rw [hn], hrest⟩
    | .str s, .str s' =>
      obtain ⟨hs, hrest⟩ := quote_inj h
      exact ⟨by rw [hs], hrest⟩
    | .arr [], .arr [] => exact ⟨rfl, List.append_cancel_left h⟩
    | .arr [], .arr (y :: ys) =>
      simp only [renderChars, List.cons_append, List.cons.injEq, true_and, List.append_assoc] at h
      exact absurd h.symm (renderChars_ne_close _ _ _)
    | .arr (x :: xs), .arr [] =>
      simp only [renderChars, List.cons_append, List.cons.injEq, true_and, List.append_assoc] at h
      exact absurd h (renderChars_ne_close _ _ _)
    | .arr (x :: xs), .arr (y :: ys) =>
      simp only [renderChars, List.cons_append, List.cons.injEq, true_and, List.append_assoc] at h
      obtain ⟨hx, hitems⟩ := renderChars_inj x y (delimited_items _ _) (delimited_items _ _) h
      obtain ⟨hxs, hrest⟩ := renderItems_inj xs ys hitems
      exact ⟨by rw [hx, hxs], hrest⟩
    | .obj [], .obj [] => exact ⟨rfl, List.append_cancel_left h⟩
    | .obj [], .obj ((k, x) :: fs) => simp [renderChars, quote] at h
    | .obj ((k, x) :: fs), .obj [] => simp [renderChars, quote] at h
    | .obj ((k, x) :: fs), .obj ((k', y) :: fs') =>
      simp only [renderChars, List.cons_append, List.cons.injEq, true_and, List.append_assoc] at h
      obtain ⟨hkey, hvalue⟩ := quote_inj h
      simp only [List.cons.injEq, true_and] at hvalue
      obtain ⟨hx, hfields⟩ := renderChars_inj x y (delimited_fields _ _) (delimited_fields _ _) hvalue
      obtain ⟨hfs, hrest⟩ := renderFields_inj fs fs' hfields
      exact ⟨by rw [hkey, hx, hfs], hrest⟩

theorem renderItems_inj : ∀ (xs ys : List Json) {r r' : List Char},
    renderItems xs ++ r = renderItems ys ++ r' → xs = ys ∧ r = r'
  | [], [], _, _, h => ⟨rfl, List.append_cancel_left h⟩
  | [], y :: ys, _, _, h => by simp [renderItems] at h
  | x :: xs, [], _, _, h => by simp [renderItems] at h
  | x :: xs, y :: ys, _, _, h => by
    simp only [renderItems, List.cons_append, List.cons.injEq, true_and, List.append_assoc] at h
    obtain ⟨hx, hitems⟩ := renderChars_inj x y (delimited_items _ _) (delimited_items _ _) h
    obtain ⟨hxs, hrest⟩ := renderItems_inj xs ys hitems
    exact ⟨by rw [hx, hxs], hrest⟩

theorem renderFields_inj : ∀ (fs fs' : List (String × Json)) {r r' : List Char},
    renderFields fs ++ r = renderFields fs' ++ r' → fs = fs' ∧ r = r'
  | [], [], _, _, h => ⟨rfl, List.append_cancel_left h⟩
  | [], (k, y) :: fs', _, _, h => by simp [renderFields] at h
  | (k, x) :: fs, [], _, _, h => by simp [renderFields] at h
  | (k, x) :: fs, (k', y) :: fs', _, _, h => by
    simp only [renderFields, List.cons_append, List.cons.injEq, true_and, List.append_assoc] at h
    obtain ⟨hkey, hvalue⟩ := quote_inj h
    simp only [List.cons.injEq, true_and] at hvalue
    obtain ⟨hx, hfields⟩ := renderChars_inj x y (delimited_fields _ _) (delimited_fields _ _) hvalue
    obtain ⟨hfs, hrest⟩ := renderFields_inj fs fs' hfields
    exact ⟨by rw [hkey, hx, hfs], hrest⟩

end

/-- `json.Marshal` never gives two values one text. -/
theorem render_inj {v w : Json} (h : render v = render w) : v = w := by
  have hchars := congrArg String.toList h
  simp only [render, String.toList_ofList] at hchars
  have hnil : Delimited [] := by simp [Delimited]
  exact (renderChars_inj v w hnil hnil (by rw [hchars])).1

end Json

end SingboxOperator.Lib
