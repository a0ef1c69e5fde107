import Mathlib.Tactic.SplitIfs
import RemoteRead.Proofs.Wire.Varint
import RemoteRead.Wire.Snappy

/-!
# Blocks are read back

A compressed block is read back as its content if the content has less than `2 ^ 32` octets, and
refused otherwise (`decompress_compress`). The elements of a block are literals, each of which adds
a piece to the content read so far (`elements_cons`).
-/

namespace RemoteRead.Wire.Snappy

/-- A literal of at most sixty octets adds them to the content, unless there would be too many. -/
theorem elements_cons {piece : List UInt8} (hpos : 0 < piece.length) (hlen : piece.length ≤ 60)
    (length fuel : Nat) (r : List UInt8) (out : Array UInt8) :
    elements length (fuel + 1) (UInt8.ofNat ((piece.length - 1) * 4) :: (piece ++ r)) out =
      if length < out.size + piece.length then none else elements length fuel r (out ++ piece) := by
  have htag : (UInt8.ofNat ((piece.length - 1) * 4)).toNat = (piece.length - 1) * 4 :=
    UInt8.toNat_ofNat_of_lt' (show (piece.length - 1) * 4 < 0x100 by omega)
  have hkind : (piece.length - 1) * 4 % 4 = 0 := Nat.mul_mod_left _ 4
  have hlength : literalLength ((piece.length - 1) * 4) (piece ++ r) =
      some (piece.length, piece ++ r) := by
    rw [literalLength, if_pos (by omega)]
    congr 2
    omega
  simp only [elements, htag, hkind, hlength, Option.bind_eq_bind, Option.bind_some, take?_append]

/-- Literals add the octets they stand for, if these are as many as the block says. -/
theorem elements_literals (length : Nat) (bs : List UInt8) {fuel : Nat}
    (hfuel : (literals bs).length ≤ fuel) (out : Array UInt8) :
    (elements length fuel (literals bs) out).map Array.toList =
      if out.size + bs.length = length then some (out.toList ++ bs) else none := by
  -- By induction on the pieces, behind the content that is read already.
  induction bs using literals.induct generalizing fuel out with
  | case1 =>
    have hnil : literals [] = [] := by rw [literals]
    rw [hnil, elements, List.append_nil, List.length_nil, Nat.add_zero]
    split_ifs <;> rfl
  | case2 b r ih =>
    have hcons : literals (b :: r) =
        UInt8.ofNat ((((b :: r).take 60).length - 1) * 4) ::
          ((b :: r).take 60 ++ literals ((b :: r).drop 60)) := by
      rw [literals, List.cons_append]
    have hpos : 0 < ((b :: r).take 60).length := by simp
    have hlen : ((b :: r).take 60).length ≤ 60 := List.length_take_le 60 (b :: r)
    have hsplit := List.take_append_drop 60 (b :: r)
    -- All that matters of the piece and the rest is said by now.
    generalize (b :: r).take 60 = piece at *
    generalize (b :: r).drop 60 = rest at *
    rw [hcons] at hfuel ⊢
    rw [← hsplit, List.length_append, ← List.append_assoc, ← Nat.add_assoc]
    -- The tag takes an octet of fuel.
    cases fuel with
    | zero => simp at hfuel
    | succ fuel =>
      have hrest : (literals rest).length ≤ fuel := by
        simp only [List.length_cons, List.length_append] at hfuel
        omega
      have hlist : (out ++ piece).toList = out.toList ++ piece := Array.toList_appendList
      have hsize : (out ++ piece).size = out.size + piece.length := by
        rw [← Array.length_toList, hlist, List.length_append, Array.length_toList]
      have hmore := ih hrest (out ++ piece)
      rw [hsize, hlist] at hmore
      rw [elements_cons hpos hlen]
      by_cases hlong : length < out.size + piece.length
      · rw [if_pos hlong, if_neg (by omega)]
        rfl
      · rw [if_neg hlong, hmore]

/-- A block is read back as its content if that has less than `2 ^ 32` octets. -/
theorem decompress_compress (bs : List UInt8) :
    decompress (compress bs) = if bs.length < 0x100000000 then some bs else none := by
  have hcontent : ∀ length, (elements length (literals bs).length (literals bs) #[]).bind
      (fun out => some out.toList) = if bs.length = length then some bs else none := by
    intro length
    have h := elements_literals length bs (Nat.le_refl _) #[]
    rw [List.size_toArray, List.length_nil, Nat.zero_add, List.nil_append] at h
    rw [← h, Option.map_eq_bind]
    rfl
  unfold decompress compress
  -- A length that has lost its upper bits is not that of the content.
  by_cases hread : bs.length < 0x80 ^ 10
  · rw [readNumber, readVarint_writeVarint (by decide), if_pos hread]
    simp only [Option.map_some, Option.bind_eq_bind, Option.bind_some, hcontent]
    split_ifs <;> first | rfl | omega
  · rw [readNumber, readVarint_writeVarint (by decide), if_neg hread, if_neg (by omega)]
    rfl

end RemoteRead.Wire.Snappy
