import Mathlib.Data.Vector.Basic

/-!
# Structure layout in memory

`Pod` is a plain data type with its size, its alignment and its value on given
bytes (little endian). `Pod.ofCtor` lays out a structure by its constructor:
fields in order, each at the next multiple of its alignment, the size rounded up
to the largest alignment.
-/

namespace CudaTrace.Base

class Pod (α : Type) where
  size : ℕ
  align : ℕ
  ofBytes : List UInt8 → α

def leNat : List UInt8 → ℕ
  | [] => 0
  | b :: bs => b.toNat + 256 * leNat bs

/-- The `n` low bytes of a number. -/
def leBytes : ℕ → ℕ → List UInt8
  | 0, _ => []
  | n + 1, v => UInt8.ofNat v :: leBytes n (v / 256)

theorem length_leBytes (n v : ℕ) : (leBytes n v).length = n := by
  induction n generalizing v with
  | zero => rfl
  | succ n ih => rw [leBytes, List.length_cons, ih]

theorem leNat_leBytes (n v : ℕ) : leNat (leBytes n v) = v % 256 ^ n := by
  induction n generalizing v with
  | zero => rw [leBytes, leNat, Nat.pow_zero, Nat.mod_one]
  | succ n ih =>
    have hbyte : (UInt8.ofNat v).toNat = v % 256 := UInt8.toNat_ofNat'
    rw [leBytes, leNat, ih, hbyte, Nat.pow_succ', Nat.mod_mul]

namespace Pod

instance {w : ℕ} : Pod (BitVec w) where
  size := w / 8
  align := w / 8
  ofBytes := fun bs => BitVec.ofNat w (leNat (bs.take (w / 8)))

theorem ofBytes_leBytes (v : BitVec 32) (rest : List UInt8) :
    ofBytes (leBytes 4 v.toNat ++ rest) = v := by
  have htake : (leBytes 4 v.toNat ++ rest).take (32 / 8) = leBytes 4 v.toNat :=
    List.take_left' (length_leBytes 4 v.toNat)
  have hlt : v.toNat < 256 ^ 4 := v.isLt
  show BitVec.ofNat 32 (leNat ((leBytes 4 v.toNat ++ rest).take (32 / 8))) = v
  rw [htake, leNat_leBytes, Nat.mod_eq_of_lt hlt, BitVec.ofNat_toNat, BitVec.setWidth_eq]

instance : Pod UInt8 where
  size := 1
  align := 1
  ofBytes := fun bs => bs.headD 0

instance {α : Type} [Pod α] {n : ℕ} : Pod (Vector α n) where
  size := n * size α
  align := align α
  ofBytes := fun bs => Vector.ofFn fun i => ofBytes (bs.drop (i.val * size α))

def alignUp (offset a : ℕ) : ℕ := (offset + a - 1) / a * a

/-- The fields that a constructor still takes, from a given offset on. -/
class Fields (F : Type) (α : outParam Type) where
  extent : ℕ → ℕ
  maxAlign : ℕ
  build : F → ℕ → List UInt8 → α

instance (priority := low) {α : Type} : Fields α α where
  extent := fun offset => offset
  maxAlign := 1
  build := fun v _ _ => v

instance {β F α : Type} [Pod β] [Fields F α] : Fields (β → F) α where
  extent := fun offset => Fields.extent F (alignUp offset (align β) + size β)
  maxAlign := max (align β) (Fields.maxAlign F)
  build := fun ctor offset bs =>
    let start := alignUp offset (align β)
    Fields.build (ctor (ofBytes (bs.drop start))) (start + size β) bs

@[reducible] def ofCtor {F α : Type} [Fields F α] (ctor : F) : Pod α where
  size := alignUp (Fields.extent F 0) (Fields.maxAlign F)
  align := Fields.maxAlign F
  ofBytes := Fields.build ctor 0

end Pod
end CudaTrace.Base
