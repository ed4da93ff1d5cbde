import Mathlib.Data.List.Basic
/-!
# SHA-1, SHA-256 and hexadecimal text

The two digests of FIPS 180-4 over byte lists, as Go's `crypto/sha1` and
`crypto/sha256` compute them, and the text encodings of `encoding/hex`. Both
digests pad the message the same way, cut it into blocks of sixteen words and
fold a compression function over the blocks.
-/

namespace SingboxOperator.Lib

/-! ## Blocks -/

/-- Rotate left by `n`, for `0 < n < 32`. -/
def rotl (x n : UInt32) : UInt32 := (x <<< n) ||| (x >>> (32 - n))

/-- Rotate right by `n`, for `0 < n < 32`. -/
def rotr (x n : UInt32) : UInt32 := (x >>> n) ||| (x <<< (32 - n))

/-- The `n` low bytes of `x`, most significant first. -/
def bytesBE : Nat → Nat → List UInt8
  | 0, _ => []
  | n + 1, x => UInt8.ofNat (x / 256 ^ n) :: bytesBE n (x % 256 ^ n)

/-- The message, a one bit, zeros up to 56 modulo 64 bytes, and the bit length. -/
def padMessage (msg : List UInt8) : List UInt8 :=
  msg ++ 0x80 :: (List.replicate ((119 - msg.length % 64) % 64) 0 ++ bytesBE 8 (8 * msg.length))

/-- Big-endian words. -/
def wordsBE : List UInt8 → List UInt32
  | a :: b :: c :: d :: rest =>
    ((a.toUInt32 <<< 24) ||| (b.toUInt32 <<< 16) ||| (c.toUInt32 <<< 8) ||| d.toUInt32) :: wordsBE rest
  | _ => []

/-- The first `n` blocks of sixteen words. -/
def blocksOf : Nat → List UInt32 → List (List UInt32)
  | 0, _ => []
  | n + 1, ws => ws.take 16 :: blocksOf n (ws.drop 16)

/-- Fold `compress` over the blocks of the padded message. -/
def digestWith (compress : List UInt32 → List UInt32 → List UInt32) (init : List UInt32) (msg : List UInt8) :
    List UInt8 :=
  let ws := wordsBE (padMessage msg)
  ((blocksOf (ws.length / 16) ws).foldl compress init).flatMap fun w => bytesBE 4 w.toNat

/-! ## SHA-256 -/

def sha256Constants : List UInt32 :=
  [0x428a2f98, 0x71374491, 0xb5c0fbcf, 0xe9b5dba5, 0x3956c25b, 0x59f111f1, 0x923f82a4, 0xab1c5ed5,
   0xd807aa98, 0x12835b01, 0x243185be, 0x550c7dc3, 0x72be5d74, 0x80deb1fe, 0x9bdc06a7, 0xc19bf174,
   0xe49b69c1, 0xefbe4786, 0x0fc19dc6, 0x240ca1cc, 0x2de92c6f, 0x4a7484aa, 0x5cb0a9dc, 0x76f988da,
   0x983e5152, 0xa831c66d, 0xb00327c8, 0xbf597fc7, 0xc6e00bf3, 0xd5a79147, 0x06ca6351, 0x14292967,
   0x27b70a85, 0x2e1b2138, 0x4d2c6dfc, 0x53380d13, 0x650a7354, 0x766a0abb, 0x81c2c92e, 0x92722c85,
   0xa2bfe8a1, 0xa81a664b, 0xc24b8b70, 0xc76c51a3, 0xd192e819, 0xd6990624, 0xf40e3585, 0x106aa070,
   0x19a4c116, 0x1e376c08, 0x2748774c, 0x34b0bcb5, 0x391c0cb3, 0x4ed8aa4a, 0x5b9cca4f, 0x682e6ff3,
   0x748f82ee, 0x78a5636f, 0x84c87814, 0x8cc70208, 0x90befffa, 0xa4506ceb, 0xbef9a3f7, 0xc67178f2]

def sha256Init : List UInt32 :=
  [0x6a09e667, 0xbb67ae85, 0x3c6ef372, 0xa54ff53a, 0x510e527f, 0x9b05688c, 0x1f83d9ab, 0x5be0cd19]

/-- Extend the message schedule by `n` words; `w` holds it newest first. -/
def sha256Schedule : Nat → List UInt32 → List UInt32
  | 0, w => w
  | n + 1, w =>
    let x := w.getD 14 0
    let y := w.getD 1 0
    let s0 := rotr x 7 ^^^ rotr x 18 ^^^ (x >>> 3)
    let s1 := rotr y 17 ^^^ rotr y 19 ^^^ (y >>> 10)
    sha256Schedule n ((w.getD 15 0 + s0 + w.getD 6 0 + s1) :: w)

def sha256Round (v : List UInt32) (kw : UInt32 × UInt32) : List UInt32 :=
  match v with
  | [a, b, c, d, e, f, g, h] =>
    let s1 := rotr e 6 ^^^ rotr e 11 ^^^ rotr e 25
    let ch := (e &&& f) ^^^ (~~~e &&& g)
    let t1 := h + s1 + ch + kw.1 + kw.2
    let s0 := rotr a 2 ^^^ rotr a 13 ^^^ rotr a 22
    let maj := (a &&& b) ^^^ (a &&& c) ^^^ (b &&& c)
    [t1 + s0 + maj, a, b, c, d + t1, e, f, g]
  | _ => v

def sha256Compress (h block : List UInt32) : List UInt32 :=
  let w := (sha256Schedule 48 block.reverse).reverse
  List.zipWith (· + ·) h ((sha256Constants.zip w).foldl sha256Round h)

/-- `sha256.Sum256`. -/
def sha256 (msg : List UInt8) : List UInt8 := digestWith sha256Compress sha256Init msg

/-! ## SHA-1 -/

def sha1Init : List UInt32 := [0x67452301, 0xefcdab89, 0x98badcfe, 0x10325476, 0xc3d2e1f0]

def sha1Schedule : Nat → List UInt32 → List UInt32
  | 0, w => w
  | n + 1, w => sha1Schedule n (rotl (w.getD 2 0 ^^^ w.getD 7 0 ^^^ w.getD 13 0 ^^^ w.getD 15 0) 1 :: w)

def sha1Round (v : List UInt32) (tw : Nat × UInt32) : List UInt32 :=
  match v with
  | [a, b, c, d, e] =>
    let (f, k) : UInt32 × UInt32 :=
      if tw.1 < 20 then ((b &&& c) ||| (~~~b &&& d), 0x5a827999)
      else if tw.1 < 40 then (b ^^^ c ^^^ d, 0x6ed9eba1)
      else if tw.1 < 60 then ((b &&& c) ||| (b &&& d) ||| (c &&& d), 0x8f1bbcdc)
      else (b ^^^ c ^^^ d, 0xca62c1d6)
    [rotl a 5 + f + e + k + tw.2, a, rotl b 30, c, d]
  | _ => v

def sha1Compress (h block : List UInt32) : List UInt32 :=
  let w := (sha1Schedule 64 block.reverse).reverse
  List.zipWith (· + ·) h (((List.range 80).zip w).foldl sha1Round h)

/-- `sha1.Sum`. -/
def sha1 (msg : List UInt8) : List UInt8 := digestWith sha1Compress sha1Init msg

/-! ## Hexadecimal -/

def hexDigit (n : Nat) : Char := "0123456789abcdef".toList.getD n '0'

/-- `fmt.Sprintf("%x", bytes)`. -/
def hexEncode (bytes : List UInt8) : String :=
  String.ofList (bytes.flatMap fun b => [hexDigit (b.toNat / 16), hexDigit (b.toNat % 16)])

theorem hexDigit_inj {m n : Nat} (hm : m < 16) (hn : n < 16) (h : hexDigit m = hexDigit n) : m = n := by
  have hall : ∀ m < 16, ∀ n < 16, hexDigit m = hexDigit n → m = n := by decide
  exact hall m hm n hn h

theorem hexEncode_inj {a b : List UInt8} : hexEncode a = hexEncode b ↔ a = b := by
  refine ⟨fun h => ?_, fun h => h ▸ rfl⟩
  have hchars := String.ofList_injective h
  clear h
  induction a generalizing b with
  | nil =>
    cases b with
    | nil => rfl
    | cons y b => simp at hchars
  | cons x a ih =>
    cases b with
    | nil => simp at hchars
    | cons y b =>
      simp only [List.flatMap_cons, List.cons_append, List.nil_append, List.cons.injEq] at hchars
      obtain ⟨hhi, hlo, hrest⟩ := hchars
      have hx := x.toNat_lt
      have hy := y.toNat_lt
      have h1 := hexDigit_inj (by omega) (by omega) hhi
      have h2 := hexDigit_inj (by omega) (by omega) hlo
      have hxy : x = y := UInt8.toNat_inj.1 (by omega)
      rw [hxy, ih hrest]

/-- The value of a hexadecimal digit, either case. -/
def hexValue (c : Char) : Option Nat :=
  if '0' ≤ c ∧ c ≤ '9' then some (c.toNat - '0'.toNat)
  else if 'a' ≤ c ∧ c ≤ 'f' then some (c.toNat - 'a'.toNat + 10)
  else if 'A' ≤ c ∧ c ≤ 'F' then some (c.toNat - 'A'.toNat + 10)
  else none

/-- `hex.DecodeString`: `none` for a bad digit or an odd length. -/
def hexDecode : List Char → Option (List UInt8)
  | [] => some []
  | [_] => none
  | c :: d :: rest => do
    let hi ← hexValue c
    let lo ← hexValue d
    let bytes ← hexDecode rest
    return UInt8.ofNat (16 * hi + lo) :: bytes

/-- The bytes of a Go string. -/
def bytesOf (s : String) : List UInt8 := s.toByteArray.toList

theorem toList_loop (b : ByteArray) (i : Nat) (r : List UInt8) :
    ByteArray.toList.loop b i r = r.reverse ++ b.data.toList.drop i := by
  fun_induction ByteArray.toList.loop b i r with
  | case1 i r hlt ih =>
    have hi : i < b.data.toList.length := by simpa using hlt
    have hget : b.get! i = b.data.toList[i] := getElem!_pos b.data i hlt
    rw [ih, List.reverse_cons, List.append_assoc, List.drop_eq_getElem_cons hi, hget, List.singleton_append]
  | case2 i r hge =>
    rw [List.drop_eq_nil_of_le (by simpa using hge), List.append_nil]

theorem bytesOf_inj {s t : String} : bytesOf s = bytesOf t ↔ s = t := by
  refine ⟨fun h => ?_, fun h => h ▸ rfl⟩
  have hdata : ∀ u : String, bytesOf u = u.toByteArray.data.toList := fun u => toList_loop _ 0 []
  rw [hdata, hdata] at h
  exact String.toByteArray_inj.1 (ByteArray.ext (Array.toList_inj.1 h))

/-! ## Decoding twice -/

theorem char_of_range {P : Char → Prop} {first n : Nat} (h : ∀ k ∈ List.range' first n, P (Char.ofNat k)) {c : Char}
    (hlo : first ≤ c.toNat) (hhi : c.toNat < first + n) : P c := by
  have := h c.toNat (List.mem_range'_1.2 ⟨hlo, hhi⟩)
  rwa [Char.ofNat_toNat] at this

/-- A digit is determined by its value, up to case. -/
theorem hexValue_eq_some {c : Char} {v : Nat} (h : hexValue c = some v) : v < 16 ∧ c.toLower = hexDigit v := by
  have hdigit : 48 ≤ c.toNat → c.toNat < 48 + 10 → c.toNat - 48 < 16 ∧ c.toLower = hexDigit (c.toNat - 48) :=
    char_of_range (P := fun c => c.toNat - 48 < 16 ∧ c.toLower = hexDigit (c.toNat - 48)) (by decide)
  have hlower : 97 ≤ c.toNat → c.toNat < 97 + 6 →
      c.toNat - 97 + 10 < 16 ∧ c.toLower = hexDigit (c.toNat - 97 + 10) :=
    char_of_range (P := fun c => c.toNat - 97 + 10 < 16 ∧ c.toLower = hexDigit (c.toNat - 97 + 10)) (by decide)
  have hupper : 65 ≤ c.toNat → c.toNat < 65 + 6 →
      c.toNat - 65 + 10 < 16 ∧ c.toLower = hexDigit (c.toNat - 65 + 10) :=
    char_of_range (P := fun c => c.toNat - 65 + 10 < 16 ∧ c.toLower = hexDigit (c.toNat - 65 + 10)) (by decide)
  unfold hexValue at h
  split at h
  · rename_i hr
    obtain rfl := Option.some.inj h
    exact hdigit hr.1 (Nat.lt_succ_of_le hr.2)
  · split at h
    · rename_i hr
      obtain rfl := Option.some.inj h
      exact hlower hr.1 (Nat.lt_succ_of_le hr.2)
    · split at h
      · rename_i hr
        obtain rfl := Option.some.inj h
        exact hupper hr.1 (Nat.lt_succ_of_le hr.2)
      · cases h

/-- Texts that decode to the same bytes are the same up to case. -/
theorem hexDecode_inj {a b : List Char} {bytes : List UInt8} (ha : hexDecode a = some bytes)
    (hb : hexDecode b = some bytes) : a.map Char.toLower = b.map Char.toLower := by
  induction bytes generalizing a b with
  | nil =>
    have hnil : ∀ l : List Char, hexDecode l = some [] → l = [] := by
      intro l hl
      match l with
      | [] => rfl
      | [c] => simp [hexDecode] at hl
      | c :: d :: rest => simp [hexDecode, Option.bind_eq_some_iff] at hl
    rw [hnil a ha, hnil b hb]
  | cons x bytes ih =>
    have hcons : ∀ l : List Char, hexDecode l = some (x :: bytes) → ∃ c d rest hi lo, l = c :: d :: rest ∧
        hexValue c = some hi ∧ hexValue d = some lo ∧ hexDecode rest = some bytes ∧ UInt8.ofNat (16 * hi + lo) = x := by
      intro l hl
      match l with
      | [] => simp [hexDecode] at hl
      | [c] => simp [hexDecode] at hl
      | c :: d :: rest =>
        simp only [hexDecode, bind, Option.bind_eq_some_iff, pure, Option.some.injEq, List.cons.injEq] at hl
        obtain ⟨hi, hhi, lo, hlo, bytes', hrest, hx, rfl⟩ := hl
        exact ⟨c, d, rest, hi, lo, rfl, hhi, hlo, hrest, hx⟩
    obtain ⟨c, d, rest, hi, lo, rfl, hc, hd, hrest, hx⟩ := hcons a ha
    obtain ⟨c', d', rest', hi', lo', rfl, hc', hd', hrest', hx'⟩ := hcons b hb
    obtain ⟨hhi, hcl⟩ := hexValue_eq_some hc
    obtain ⟨hlo, hdl⟩ := hexValue_eq_some hd
    obtain ⟨hhi', hcl'⟩ := hexValue_eq_some hc'
    obtain ⟨hlo', hdl'⟩ := hexValue_eq_some hd'
    have hbyte : 16 * hi + lo = 16 * hi' + lo' := by
      have h := congrArg UInt8.toNat (hx.trans hx'.symm)
      simp only [UInt8.toNat_ofNat'] at h
      omega
    have h1 : hi = hi' := by omega
    have h2 : lo = lo' := by omega
    simp only [List.map_cons, hcl, hdl, hcl', hdl', h1, h2, ih hrest hrest']

end SingboxOperator.Lib
