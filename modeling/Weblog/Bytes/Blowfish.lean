/-
  The Blowfish cipher with the slow key schedule that password hashes use.

  The cipher works on blocks of two words. Its 1042 words of state are 18 round keys and four
  boxes of 256 words; they begin as the fraction of π and are overwritten, pair by pair, by what
  the cipher makes of its own output, a key and a salt.
-/
import Weblog.Bytes.Word

namespace Weblog.Bytes.Blowfish

/-! ## The fraction of π -/

/-- The number of words of the state. -/
def stateSize : Nat := 1042

/-- The number of bits in which π is computed: those of the state, and 64 for rounding. -/
def precision : Nat := 32 * stateSize + 64

/-- The alternating sum of `power / odd`, `power / k² / (odd + 2)` and so on: with `power = 1 / k`
and `odd = 1` the angle whose tangent is `1 / k`. -/
def angleFrom (square : Nat) : (terms power odd : Nat) → Int
  | 0, _, _ => 0
  | terms + 1, power, odd =>
    (power / odd : Nat) - angleFrom square terms (power / square) (odd + 2)

/-- The angle whose tangent is `1 / k`. Every term is less than half the one before. -/
def angle (k : Nat) : Int := angleFrom (k * k) precision (Nat.pow 2 precision / k) 1

/-- The number π: four times the angle of tangent 1, which is four times the angle of 1/5 less the
angle of 1/239. -/
def pi : Int := 4 * (4 * angle 5 - angle 239)

/-- The words of the fraction of π. -/
def piWords : Array UInt32 :=
  let p := pi.toNat
  (Array.range stateSize).map fun i => UInt32.ofNat (p / Nat.pow 2 (precision - 32 * (i + 1)) % Nat.pow 2 32)

/-! ## The cipher -/

/-- The state: the round keys and then the boxes. -/
structure State where
  words : Array UInt32

/-- A block. -/
structure Block where
  left : UInt32
  right : UInt32
deriving DecidableEq, Repr

namespace State

def initial : State := ⟨piWords⟩

/-- A round key. -/
def key (s : State) (i : Nat) : UInt32 := s.words.getD i 0

/-- A word of one of the four boxes. -/
def box (s : State) (i : Nat) (x : UInt8) : UInt32 := s.words.getD (18 + 256 * i + x.toNat) 0

/-- The mixing of a word: each of its bytes selects a word of its own box. -/
def mix (s : State) (x : UInt32) : UInt32 :=
  ((s.box 0 (wordByte x 24) + s.box 1 (wordByte x 16)) ^^^ s.box 2 (wordByte x 8))
    + s.box 3 (wordByte x 0)

/-- The last `n` of sixteen rounds. -/
def rounds (s : State) : (n : Nat) → Block → Block
  | 0, b => b
  | n + 1, b =>
    let left := b.left ^^^ s.key (15 - n)
    rounds s n ⟨b.right ^^^ s.mix left, left⟩

/-- A block after sixteen rounds, of which the last does not swap, and the last two keys. -/
def encrypt (s : State) (b : Block) : Block :=
  let b := s.rounds 16 b
  ⟨b.right ^^^ s.key 17, b.left ^^^ s.key 16⟩

end State

/-! ## The key schedule -/

/-- The first words of bytes that are repeated without end. -/
def cycle (bytes : Bytes) (count : Nat) : Array UInt32 :=
  let enough := (List.replicate (4 * count) bytes).flatten
  (words (enough.take (4 * count))).toArray

/-- Overwrites the last `n` pairs of words, each with the cipher of the pair before and the
salt. -/
def refill (salt : Array UInt32) : (n : Nat) → Block → State → State
  | 0, _, s => s
  | n + 1, b, s =>
    let i := stateSize / 2 - (n + 1)
    let b := s.encrypt ⟨b.left ^^^ salt.getD (2 * i % 4) 0, b.right ^^^ salt.getD (2 * i % 4 + 1) 0⟩
    refill salt n b ⟨(s.words.setIfInBounds (2 * i) b.left).setIfInBounds (2 * i + 1) b.right⟩

/-- A state after a salt of four words, or none, and a key of eighteen words. -/
def expand (salt key : Array UInt32) (s : State) : State :=
  let words := (List.range 18).foldl (fun w i => w.modify i (· ^^^ key.getD i 0)) s.words
  refill salt (stateSize / 2) ⟨0, 0⟩ ⟨words⟩

/-- The state after the slow schedule: salt and key once, then `2 ^ cost` times the key and the
salt as keys. -/
def schedule (cost : Nat) (salt key : Bytes) : State :=
  let keyWords := cycle key 18
  let saltWords := cycle salt 18
  Nat.repeat (fun s => expand #[] saltWords (expand #[] keyWords s)) (Nat.pow 2 cost)
    (expand (cycle salt 4) keyWords .initial)

/-- The text that is encrypted under the slow schedule. -/
def plainText : List UInt32 := words (ofText "OrpheanBeholderScryDoubt")

/-- The blocks of two words each. -/
def blocks : List UInt32 → List Block
  | left :: right :: rest => ⟨left, right⟩ :: blocks rest
  | _ => []

/-- The digest of a key with a salt at a cost: the fixed text after 64 encryptions, without its
last byte. -/
def digest (cost : Nat) (salt key : Bytes) : Bytes :=
  let s := schedule cost salt key
  let cipherText := (blocks plainText).map (Nat.repeat s.encrypt 64)
  (cipherText.flatMap fun b => wordBytes b.left ++ wordBytes b.right).take 23

end Weblog.Bytes.Blowfish
