/-
  The digest on natural numbers.

  An operation on machine words takes long to unfold where a proof is checked, and one on natural
  numbers is computed there at once. The two digests are equal (`hmac_toNat`), so that the digest of
  a known text is computed on natural numbers.
-/
import Weblog.Bytes.Sha256

namespace Weblog.Bytes.Sha256

/-! ## Words as numbers -/

namespace OnNat

/-- The number of values of a word. -/
def values : Nat := 4294967296

/-- The eight words of the chaining state. -/
structure State where
  a : Nat
  b : Nat
  c : Nat
  d : Nat
  e : Nat
  f : Nat
  g : Nat
  h : Nat

/-- A state of words as numbers. -/
def State.ofWords (s : Sha256.State) : State :=
  ⟨s.a.toNat, s.b.toNat, s.c.toNat, s.d.toNat, s.e.toNat, s.f.toNat, s.g.toNat, s.h.toNat⟩

def rotate (x n : Nat) : Nat := x >>> n ||| x <<< (32 - n) % values

/-- The schedule extended by `n` words, the last word first. -/
def extend : (n : Nat) → List Nat → List Nat
  | 0, ws => ws
  | n + 1, ws =>
    let x := ws.getD 14 0
    let y := ws.getD 1 0
    let s := rotate x 7 ^^^ rotate x 18 ^^^ (x >>> 3)
    let t := rotate y 17 ^^^ rotate y 19 ^^^ (y >>> 10)
    extend n ((ws.getD 15 0 + s + ws.getD 6 0 + t) % values :: ws)

/-- One round with a constant and a word of the schedule. -/
def round (s : State) (k w : Nat) : State :=
  let t1 := s.h + (rotate s.e 6 ^^^ rotate s.e 11 ^^^ rotate s.e 25)
    + ((s.e &&& s.f) ^^^ (values - 1 - s.e &&& s.g)) + k + w
  let t2 := (rotate s.a 2 ^^^ rotate s.a 13 ^^^ rotate s.a 22)
    + ((s.a &&& s.b) ^^^ (s.a &&& s.c) ^^^ (s.b &&& s.c))
  ⟨(t1 + t2) % values, s.a, s.b, s.c, (s.d + t1) % values, s.e, s.f, s.g⟩

/-- The rounds with the constants and the schedule. -/
def rounds (s : State) : (ks ws : List Nat) → State
  | k :: ks, w :: ws => rounds (round s k w) ks ws
  | _, _ => s

/-- The state after a block of sixteen words. -/
def compress (s : State) (block : List Nat) : State :=
  let ws := (extend 48 block.reverse).reverse
  let r := rounds s (roundConstants.toList.map UInt32.toNat) ws
  ⟨(s.a + r.a) % values, (s.b + r.b) % values, (s.c + r.c) % values, (s.d + r.d) % values,
    (s.e + r.e) % values, (s.f + r.f) % values, (s.g + r.g) % values, (s.h + r.h) % values⟩

/-- The state after `n` blocks. -/
def compressAll : (n : Nat) → State → List Nat → State
  | 0, s, _ => s
  | n + 1, s, ws => compressAll n (compress s (ws.take 16)) (ws.drop 16)

/-- The words of four bytes each. -/
def words : List Nat → List Nat
  | a :: b :: c :: d :: rest =>
    (a <<< 24 % values ||| b <<< 16 % values ||| c <<< 8 % values ||| d) :: words rest
  | _ => []

/-- A word as four bytes. -/
def wordBytes (x : Nat) : List Nat := [x >>> 24 % 256, x >>> 16 % 256, x >>> 8 % 256, x % 256]

/-- The message with its padding. -/
def pad (message : List Nat) : List Nat :=
  let zeros := (119 - message.length % 64) % 64
  message ++ 0x80 :: List.replicate zeros 0
    ++ (List.range 8).map fun i => 8 * message.length / Nat.pow 256 (7 - i) % 256

/-- The digest of a message. -/
def hash (message : List Nat) : List Nat :=
  let ws := words (pad message)
  let s := compressAll (ws.length / 16) (.ofWords initial) ws
  [s.a, s.b, s.c, s.d, s.e, s.f, s.g, s.h].flatMap wordBytes

/-- A key as a block of 64 bytes: hashed if it is longer. -/
def keyBlock (key : List Nat) : List Nat :=
  let k := if 64 < key.length then hash key else key
  k ++ List.replicate (64 - k.length) 0

/-- The digest of a message under a key. -/
def hmac (key message : List Nat) : List Nat :=
  let k := keyBlock key
  hash (k.map (· ^^^ 0x5c) ++ hash (k.map (· ^^^ 0x36) ++ message))

end OnNat

theorem toNat_rotate (x : UInt32) {n : UInt32} (some : 0 < n.toNat) (fits : n.toNat < 32) :
    (rotate x n).toNat = OnNat.rotate x.toNat n.toNat := by
  have rest : (32 - n).toNat = 32 - n.toNat := UInt32.toNat_sub_of_le _ _ (Nat.le_of_lt fits)
  have right : n.toNat % 32 = n.toNat := Nat.mod_eq_of_lt fits
  have left : (32 - n.toNat) % 32 = 32 - n.toNat := Nat.mod_eq_of_lt (by omega)
  rw [rotate, UInt32.toNat_or, UInt32.toNat_shiftRight, UInt32.toNat_shiftLeft, rest, right, left]
  rfl

open OnNat (State.ofWords)

theorem ofWords_round (s : State) (k w : UInt32) :
    State.ofWords (round s k w) = OnNat.round (.ofWords s) k.toNat w.toNat := by
  simp only [round, OnNat.round, State.ofWords]
  simp [toNat_rotate, OnNat.values]

/-- A word of the schedule counted from its end. -/
theorem getD_reverse (w : Array UInt32) {k : Nat} (some : k < w.size) :
    (w.toList.map UInt32.toNat).reverse.getD k 0 = (w.getD (w.size - (k + 1)) 0).toNat := by
  have inside : w.size - (k + 1) < w.size := by omega
  have index : w.size - 1 - k = w.size - (k + 1) := by omega
  have size : (w.toList.map UInt32.toNat).length = w.size := by
    rw [List.length_map, Array.length_toList]
  rw [List.getD_eq_getElem?_getD, List.getElem?_reverse (by omega), size, index, List.getElem?_map,
    Array.getElem?_toList, Array.getElem?_eq_getElem inside, Array.getD, dif_pos inside]
  rfl

/-- The schedule grows on numbers as it does on words. -/
theorem toNat_extend (n : Nat) (w : Array UInt32) (some : 16 ≤ w.size) :
    ((extend n w).toList.map UInt32.toNat).reverse =
      OnNat.extend n (w.toList.map UInt32.toNat).reverse := by
  induction n generalizing w with
  | zero => rfl
  | succ n ih =>
    rw [extend, ih _ (by rw [Array.size_push]; omega), OnNat.extend, getD_reverse w (by omega),
      getD_reverse w (by omega), getD_reverse w (by omega), getD_reverse w (by omega)]
    simp only [Array.toList_push, List.map_append, List.map_cons, List.map_nil,
      List.reverse_append, List.reverse_cons, List.reverse_nil, List.nil_append, List.cons_append]
    simp [toNat_rotate, OnNat.values]

theorem size_extend (n : Nat) (w : Array UInt32) : (extend n w).size = w.size + n := by
  induction n generalizing w with
  | zero => rfl
  | succ n ih => rw [extend, ih, Array.size_push]; omega

theorem ofWords_rounds (ks ws : List UInt32) (same : ks.length = ws.length) (s : State) :
    State.ofWords ((List.range ks.length).foldl
        (fun s i => round s (ks.getD i 0) (ws.getD i 0)) s) =
      OnNat.rounds (.ofWords s) (ks.map UInt32.toNat) (ws.map UInt32.toNat) := by
  induction ks generalizing ws s with
  | nil => rfl
  | cons k ks ih =>
    cases ws with
    | nil => cases same
    | cons w ws =>
      rw [List.length_cons, List.range_succ_eq_map, List.foldl_cons, List.foldl_map]
      simp only [List.getD_cons_zero, List.getD_cons_succ, List.map_cons, OnNat.rounds]
      rw [ih ws (Nat.succ.inj same), ofWords_round]

theorem getD_toList (w : Array UInt32) (i : Nat) : w.toList.getD i 0 = w.getD i 0 := by
  rw [List.getD_eq_getElem?_getD, Array.getElem?_toList, Array.getD_eq_getD_getElem?]

theorem ofWords_compress (s : State) (block : List UInt32) (full : block.length = 16) :
    State.ofWords (compress s block) = OnNat.compress (.ofWords s) (block.map UInt32.toNat) := by
  have size : (extend 48 block.toArray).size = 64 := by
    rw [size_extend, List.size_toArray, full]
  have schedule := toNat_extend 48 block.toArray (by rw [List.size_toArray]; omega)
  have rounds := ofWords_rounds roundConstants.toList (extend 48 block.toArray).toList
    (by rw [Array.length_toList, Array.length_toList, size]; rfl) s
  have count : roundConstants.toList.length = 64 := rfl
  simp only [getD_toList, count] at rounds
  rw [← List.map_reverse] at schedule
  have w : (extend 48 block.toArray).toList.map UInt32.toNat =
      (OnNat.extend 48 (block.map UInt32.toNat).reverse).reverse := by
    rw [← schedule]
    simp
  rw [w] at rounds
  rw [OnNat.compress, ← rounds, compress]
  simp [State.ofWords, OnNat.values]

/-- The words of bytes as numbers. -/
theorem toNat_words (bs : Bytes) :
    (words bs).map UInt32.toNat = OnNat.words (bs.map UInt8.toNat) := by
  induction bs using words.induct with
  | case1 a b c d rest ih =>
    rw [words, List.map_cons, ih]
    simp [OnNat.words, OnNat.values]
  | case2 bs short =>
    rcases bs with _ | ⟨a, _ | ⟨b, _ | ⟨c, _ | ⟨d, rest⟩⟩⟩⟩
    · rfl
    · rfl
    · rfl
    · rfl
    · exact (short a b c d rest rfl).elim

theorem ofWords_compressAll (n : Nat) (s : State) (ws : List UInt32) (enough : 16 * n ≤ ws.length) :
    State.ofWords (compressAll n s ws) =
      OnNat.compressAll n (.ofWords s) (ws.map UInt32.toNat) := by
  induction n generalizing s ws with
  | zero => rfl
  | succ n ih =>
    have full : (ws.take 16).length = 16 := by
      rw [List.length_take]
      omega
    rw [compressAll, ih _ _ (by rw [List.length_drop]; omega), ofWords_compress s _ full,
      OnNat.compressAll, List.map_take, List.map_drop]

theorem toNat_wordBytes (x : UInt32) :
    (wordBytes x).map UInt8.toNat = OnNat.wordBytes x.toNat := by
  simp [wordBytes, wordByte, OnNat.wordBytes]

theorem toNat_pad (message : Bytes) :
    (pad message).map UInt8.toNat = OnNat.pad (message.map UInt8.toNat) := by
  simp [pad, OnNat.pad, eightBytes, byte]

theorem toNat_hash (message : Bytes) :
    (hash message).map UInt8.toNat = OnNat.hash (message.map UInt8.toNat) := by
  have blocks := ofWords_compressAll ((words (pad message)).length / 16) initial (words (pad message))
    (Nat.mul_div_le _ 16)
  rw [toNat_words, toNat_pad] at blocks
  have count : (words (pad message)).length =
      (OnNat.words (OnNat.pad (message.map UInt8.toNat))).length := by
    rw [← toNat_pad, ← toNat_words, List.length_map]
  rw [OnNat.hash, ← count, ← blocks, hash]
  simp only [List.map_append, List.map_nil, toNat_wordBytes, List.flatMap_cons, List.flatMap_nil,
    State.ofWords]

theorem toNat_keyBlock (key : Bytes) :
    (keyBlock key).map UInt8.toNat = OnNat.keyBlock (key.map UInt8.toNat) := by
  have length : (OnNat.hash (key.map UInt8.toNat)).length = (hash key).length := by
    rw [← toNat_hash, List.length_map]
  unfold keyBlock OnNat.keyBlock
  rw [List.length_map]
  split
  · simp [toNat_hash, length]
  · simp

/-- The digest on natural numbers is the digest. -/
theorem toNat_hmac (key message : Bytes) :
    (hmac key message).map UInt8.toNat =
      OnNat.hmac (key.map UInt8.toNat) (message.map UInt8.toNat) := by
  simp only [hmac, OnNat.hmac, toNat_hash, List.map_append, ← toNat_keyBlock, List.map_map]
  simp [Function.comp_def]

theorem hmac_eq (key message : Bytes) : hmac key message =
    (OnNat.hmac (key.map UInt8.toNat) (message.map UInt8.toNat)).map UInt8.ofNat := by
  rw [← toNat_hmac, List.map_map]
  simp [Function.comp_def]

end Weblog.Bytes.Sha256
