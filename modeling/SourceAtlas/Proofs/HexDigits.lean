-- Numbers in base 16 read back as what was written, whatever they are filled with zeros to,
-- and in letters of either case. A character reads back from its number.
import SourceAtlas.Text.Basic

namespace SourceAtlas.Text

theorem hexValue?_digitChar {d : Nat} (h : d < 16) : hexValue? d.digitChar = some d := by
  have hall : ∀ d : Fin 16, hexValue? (Nat.digitChar d) = some d.val := by decide
  exact hall ⟨d, h⟩

theorem hexValue?_toUpper_digitChar {d : Nat} (h : d < 16) :
    hexValue? d.digitChar.toUpper = some d := by
  have hall : ∀ d : Fin 16, hexValue? (Nat.digitChar d).toUpper = some d.val := by decide
  exact hall ⟨d, h⟩

/-- The number that the digits stand for when `n` has been read before them. -/
def hexNumberFrom? (n : Nat) (cs : List Char) : Option Nat :=
  cs.foldlM (fun n c => (hexValue? c).map (n * 16 + ·)) n

theorem hexNumberFrom?_append (n : Nat) (cs ds : List Char) :
    hexNumberFrom? n (cs ++ ds) = (hexNumberFrom? n cs).bind (hexNumberFrom? · ds) :=
  List.foldlM_append

/-- The digits of a number, each of them changed by a function that keeps its value. -/
theorem hexNumberFrom?_toDigits {f : Char → Char}
    (hf : ∀ d < 16, hexValue? (f (Nat.digitChar d)) = some d) (n : Nat) :
    hexNumberFrom? 0 ((Nat.toDigits 16 n).map f) = some n := by
  induction n using Nat.strongRecOn with
  | ind n ih =>
    by_cases h : n < 16
    · simp [Nat.toDigits_of_lt_base h, hexNumberFrom?, hf n h]
    · have hsmaller : n / 16 < n := by omega
      have hlast : n % 16 < 16 := by omega
      rw [Nat.toDigits_of_base_le (by decide) (by omega), List.map_append, hexNumberFrom?_append,
        ih (n / 16) hsmaller]
      simp only [Option.bind_some, List.map_cons, List.map_nil, hexNumberFrom?, List.foldlM_cons,
        List.foldlM_nil, hf (n % 16) hlast, Option.map_some, Option.bind_eq_bind, Option.pure_def]
      congr 1
      omega

theorem hexNumberFrom?_zeros {zero : Char} (h : hexValue? zero = some 0) (k : Nat) :
    hexNumberFrom? 0 (List.replicate k zero) = some 0 := by
  induction k with
  | zero => rfl
  | succ k ih => simpa [List.replicate_succ, hexNumberFrom?, h] using ih

/-- A number reads back when each of its digits does. The zeros in front add nothing. -/
theorem hexNumber?_map_hex {f : Char → Char}
    (hf : ∀ d < 16, hexValue? (f (Nat.digitChar d)) = some d) (width n : Nat) :
    hexNumber? ((hex width n).map f) = some n := by
  have hzero : hexValue? (f '0') = some 0 := hf 0 (by decide)
  change hexNumberFrom? 0 ((hex width n).map f) = some n
  unfold hex
  rw [List.map_append, List.map_replicate, hexNumberFrom?_append,
    hexNumberFrom?_zeros hzero, Option.bind_some, hexNumberFrom?_toDigits hf]

theorem hexNumber?_hex (width n : Nat) : hexNumber? (hex width n) = some n := by
  simpa using hexNumber?_map_hex (f := id) (fun _ => hexValue?_digitChar) width n

theorem hexNumber?_upper (width n : Nat) :
    hexNumber? ((hex width n).map Char.toUpper) = some n :=
  hexNumber?_map_hex (fun _ => hexValue?_toUpper_digitChar) width n

theorem length_hex {width n : Nat} (hwidth : 0 < width) (h : n < Nat.pow 16 width) :
    (hex width n).length = width := by
  have hdigits : (Nat.toDigits 16 n).length ≤ width :=
    (Nat.length_toDigits_le_iff (by decide) hwidth).mpr h
  unfold hex
  rw [List.length_append, List.length_replicate]
  omega

theorem toNat_lt (c : Char) : c.toNat < 0x110000 := by
  have hvalid : c.toNat.isValidChar := c.valid
  rcases hvalid with h | ⟨_, h⟩ <;> omega

theorem scalar?_toNat (c : Char) : scalar? c.toNat = some c := by
  have hvalid : c.toNat.isValidChar := c.valid
  unfold scalar?
  rw [dif_pos hvalid]
  exact congrArg some (Char.ext rfl)

end SourceAtlas.Text
