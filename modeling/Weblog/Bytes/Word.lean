/-
  Words of four bytes, the highest byte first.
-/
import Weblog.Bytes.Utf8

namespace Weblog.Bytes

/-- The words of four bytes each. -/
def words : Bytes → List UInt32
  | a :: b :: c :: d :: rest =>
    (a.toUInt32 <<< 24 ||| b.toUInt32 <<< 16 ||| c.toUInt32 <<< 8 ||| d.toUInt32) :: words rest
  | _ => []

/-- The byte of a word that some bits stand behind. -/
def wordByte (x : UInt32) (bits : UInt32) : UInt8 := (x >>> bits).toUInt8

/-- A word as four bytes. -/
def wordBytes (x : UInt32) : Bytes :=
  [wordByte x 24, wordByte x 16, wordByte x 8, wordByte x 0]

end Weblog.Bytes
