import Mathlib.Algebra.Group.Nat.Defs
import RemoteRead.Wire.Message

/-!
# Numbers on the wire read back

A number in groups of seven bits is read back with what stands behind it, as long as it has no more
groups than the reader takes (`readVarint_writeVarint`). A number of 64 bits has at most ten groups
(`readNumber_writeVarint`), and a tag of 32 bits at most five (`readTag_writeVarint`). Numbers of a
fixed width are read back if they fit (`ofLittleEndian_littleEndian`), and integers from their bits
in two's complement (`toInt64_ofInt64`, `toInt32_ofInt64`).
-/

namespace RemoteRead.Wire

/-! ## Varints -/

/-- A varint has an octet. -/
theorem writeVarint_ne_nil (n : Nat) : writeVarint n ≠ [] := by
  rw [writeVarint]
  split <;> simp

/-- A number is read back with what stands behind it if it has at most `k` groups, and not read at
all otherwise. -/
theorem readVarint_writeVarint {k : Nat} (hk : k ≠ 0) (n : Nat) (r : List UInt8) :
    readVarint k (writeVarint n ++ r) = if n < 0x80 ^ k then some (n, r) else none := by
  -- By induction on the groups that may be read; each leaves a number smaller by a factor.
  induction k generalizing n with
  | zero => exact absurd rfl hk
  | succ k ih =>
    rw [writeVarint]
    split
    · rename_i hsmall
      have hoctet : (UInt8.ofNat n).toNat = n :=
        UInt8.toNat_ofNat_of_lt' (show n < 0x100 by omega)
      have hgroups : n < 0x80 ^ (k + 1) := by
        have hpos := Nat.pow_pos (n := k) (show 0 < 0x80 by decide)
        rw [Nat.pow_succ]
        omega
      simp only [List.singleton_append, readVarint, hoctet, if_pos hsmall, if_pos hgroups]
    · rename_i hlarge
      have hoctet : (UInt8.ofNat (0x80 + n % 0x80)).toNat = 0x80 + n % 0x80 :=
        UInt8.toNat_ofNat_of_lt' (show 0x80 + n % 0x80 < 0x100 by omega)
      have hgroups : n / 0x80 < 0x80 ^ k ↔ n < 0x80 ^ (k + 1) := by
        rw [Nat.pow_succ]
        omega
      have hnumber : n / 0x80 * 0x80 + (0x80 + n % 0x80 - 0x80) = n := by omega
      simp only [List.cons_append, readVarint, hoctet]
      rw [if_neg (by omega)]
      -- The last group that may be read has a continuation bit, so the number is too large.
      cases k with
      | zero =>
        rw [if_neg (by omega)]
        rfl
      | succ k =>
        rw [ih (by omega)]
        by_cases h : n / 0x80 < 0x80 ^ (k + 1)
        · rw [if_pos h, if_pos (hgroups.mp h)]
          simp only [Option.map_some, hnumber]
        · rw [if_neg h, if_neg fun hn => h (hgroups.mpr hn)]
          rfl

/-- A number of 64 bits is read back. -/
theorem readNumber_writeVarint {n : Nat} (hn : n < 0x10000000000000000) (r : List UInt8) :
    readNumber (writeVarint n ++ r) = some (n, r) := by
  rw [readNumber, readVarint_writeVarint (by decide), if_pos (by omega)]
  simp only [Option.map_some, Nat.mod_eq_of_lt hn]

/-- A tag of 32 bits is read back. -/
theorem readTag_writeVarint {n : Nat} (hn : n < 0x100000000) (r : List UInt8) :
    readTag (writeVarint n ++ r) = some (n, r) := by
  have hread := readVarint_writeVarint (show 5 ≠ 0 by decide) n r
  rw [if_pos (by omega)] at hread
  simp only [readTag, hread, if_pos hn]

/-! ## Numbers of a fixed width -/

/-- A number has the octets that are asked for. -/
@[simp]
theorem length_littleEndian (k n : Nat) : (littleEndian k n).length = k := by
  induction k generalizing n with
  | zero => rfl
  | succ k ih => rw [littleEndian, List.length_cons, ih]

/-- A number that fits its octets is read back. -/
theorem ofLittleEndian_littleEndian {k n : Nat} (hn : n < 0x100 ^ k) :
    ofLittleEndian (littleEndian k n) = n := by
  induction k generalizing n with
  | zero =>
    have hzero : n = 0 := by simpa using hn
    rw [hzero]
    rfl
  | succ k ih =>
    have hquotient : n / 0x100 < 0x100 ^ k := by
      rw [Nat.pow_succ] at hn
      exact Nat.div_lt_of_lt_mul (by omega)
    have hoctet : (UInt8.ofNat (n % 0x100)).toNat = n % 0x100 :=
      UInt8.toNat_ofNat_of_lt' (show n % 0x100 < 0x100 by omega)
    have hrest : ofLittleEndian (littleEndian k (n / 0x100)) = n / 0x100 := ih hquotient
    calc ofLittleEndian (littleEndian (k + 1) n)
        = (UInt8.ofNat (n % 0x100)).toNat +
            0x100 * ofLittleEndian (littleEndian k (n / 0x100)) := rfl
      _ = n % 0x100 + 0x100 * (n / 0x100) := by rw [hoctet, hrest]
      _ = n := Nat.mod_add_div n 0x100

/-- The octets in front are taken off again. -/
theorem take?_append (bs r : List UInt8) : take? bs.length (bs ++ r) = some (bs, r) := by
  rw [take?, if_pos (by simp), List.take_left, List.drop_left]

/-! ## Integers from their bits -/

/-- The bits of an integer are 64. -/
theorem ofInt64_lt (n : Int) : ofInt64 n < 0x10000000000000000 := by
  unfold ofInt64
  omega

/-- An integer that fits 64 bits is that of its bits. -/
theorem toInt64_ofInt64 {n : Int} (hlow : -9223372036854775808 ≤ n)
    (hhigh : n ≤ 9223372036854775807) : toInt64 (ofInt64 n) = n := by
  unfold toInt64 ofInt64
  split <;> omega

/-- An integer that fits 32 bits is that of the lower half of its 64. -/
theorem toInt32_ofInt64 {n : Int} (hlow : -2147483648 ≤ n) (hhigh : n ≤ 2147483647) :
    toInt32 (ofInt64 n) = n := by
  unfold toInt32 ofInt64
  dsimp only
  split <;> omega

end RemoteRead.Wire
