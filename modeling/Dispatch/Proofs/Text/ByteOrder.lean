import Dispatch.Table
import Mathlib.Data.String.Basic
import Mathlib.Tactic.SplitIfs

/-!
# The order of texts is the order of their bytes

Texts are compared character by character. UTF-8 is made so that this is also the order of the
encoded bytes: of two characters the lower one has the lower bytes, and no encoding begins another
one.

## Main definitions

* `Text.utf8`: the bytes of a text.
* `Text.Ascending`: codes of numbers that are in the order of the numbers, whatever follows them.

## Main statements

* `Text.lt_iff_utf8_lt`: a text is below another one exactly when its bytes are.
* `Table.ascending_names`: so the names of a table are in the order of their bytes.
-/
namespace Dispatch

namespace Text

/-- The bytes of a text. -/
def utf8 (s : String) : List UInt8 := s.toUTF8.data.toList

theorem utf8_eq_flatMap (s : String) : utf8 s = s.toList.flatMap String.utf8EncodeChar := by
  obtain ⟨cs, rfl⟩ : ∃ cs, s = String.ofList cs := ⟨s.toList, String.ofList_toList.symm⟩
  simp [utf8, List.utf8Encode]

theorem length_utf8 (s : String) : (utf8 s).length = s.utf8ByteSize := rfl

/-- The codes of the numbers below a bound are in the order of the numbers, and they differ before
one of them ends. -/
def Ascending (bound : ℕ) (code : ℕ → List UInt8) : Prop :=
  ∀ m n, m < n → n < bound → ∀ x y, code m ++ x < code n ++ y

/-- The first byte decides, as long as nothing is cut off. -/
theorem cons_lt_cons_of_lt {m n : ℕ} (less : m < n) (small : n < 256) (x y : List UInt8) :
    UInt8.ofNat m :: x < UInt8.ofNat n :: y := by
  refine List.cons_lt_cons_iff.2 (.inl ?_)
  rw [UInt8.lt_iff_toNat_lt, UInt8.toNat_ofNat', UInt8.toNat_ofNat']
  omega

theorem ascending_lead {size base : ℕ} (fits : size + base ≤ 256) :
    Ascending size fun v => [UInt8.ofNat (v % size + base)] := by
  intro m n less small x y
  dsimp only
  rw [Nat.mod_eq_of_lt small, Nat.mod_eq_of_lt (Nat.lt_trans less small)]
  exact cons_lt_cons_of_lt (by omega) (by omega) _ _

/-- One more byte holds the last six bits. -/
theorem Ascending.more {bound : ℕ} {code : ℕ → List UInt8} (h : Ascending bound code) :
    Ascending (bound * 64) fun v => code (v / 64) ++ [UInt8.ofNat (v % 64 + 128)] := by
  intro m n less small x y
  dsimp only
  rw [List.append_assoc, List.append_assoc]
  by_cases same : m / 64 = n / 64
  · rw [same]
    apply List.append_left_lt
    exact cons_lt_cons_of_lt (by omega) (by omega) _ _
  · exact h _ _ (by omega) (by omega) _ _

/-- Of two characters the lower one has the lower bytes, whatever follows them. -/
theorem utf8EncodeChar_append_lt {c d : Char} (less : c < d) (x y : List UInt8) :
    String.utf8EncodeChar c ++ x < String.utf8EncodeChar d ++ y := by
  have below : c.val.toNat < d.val.toNat := less
  have small : d.val.toNat < 1114112 := by
    rcases d.valid with low | ⟨-, high⟩
    · omega
    · exact high
  have two := (ascending_lead (show 32 + 192 ≤ 256 by decide)).more
  have three := (ascending_lead (show 16 + 224 ≤ 256 by decide)).more.more
  have four := (ascending_lead (show 8 + 240 ≤ 256 by decide)).more.more.more
  simp only [Nat.div_div_eq_div_mul] at three four
  simp only [String.utf8EncodeChar]
  generalize c.val.toNat = m at below
  generalize d.val.toNat = n at below small
  -- encodings of one length ascend; of two lengths, the longer one begins with a higher byte
  split_ifs
  · exact cons_lt_cons_of_lt below (by omega) x y
  · exact cons_lt_cons_of_lt (by omega) (by omega) _ _
  · exact cons_lt_cons_of_lt (by omega) (by omega) _ _
  · exact cons_lt_cons_of_lt (by omega) (by omega) _ _
  · omega
  · exact two m n below (by omega) x y
  · exact cons_lt_cons_of_lt (by omega) (by omega) _ _
  · exact cons_lt_cons_of_lt (by omega) (by omega) _ _
  · omega
  · omega
  · exact three m n below (by omega) x y
  · exact cons_lt_cons_of_lt (by omega) (by omega) _ _
  · omega
  · omega
  · omega
  · exact four m n below (by omega) x y

theorem flatMap_lt_of_lt {a b : List Char} (less : a < b) :
    a.flatMap String.utf8EncodeChar < b.flatMap String.utf8EncodeChar := by
  induction less with
  | @nil d b =>
    have first := List.length_pos_iff.1 (String.length_utf8EncodeChar d ▸ Char.utf8Size_pos d)
    obtain ⟨u, us, shape⟩ := List.exists_cons_of_ne_nil first
    rw [List.flatMap_cons, shape]
    exact List.nil_lt_cons _ _
  | @cons c a b _ ih =>
    rw [List.flatMap_cons, List.flatMap_cons]
    exact List.append_left_lt ih
  | rel lower =>
    rw [List.flatMap_cons, List.flatMap_cons]
    exact utf8EncodeChar_append_lt lower _ _

/-- **The order of texts is the order of their bytes.** -/
theorem lt_iff_utf8_lt (a b : String) : a < b ↔ utf8 a < utf8 b := by
  rw [utf8_eq_flatMap, utf8_eq_flatMap, String.lt_iff_toList_lt]
  constructor
  · exact flatMap_lt_of_lt
  · intro less
    by_contra not_below
    rcases lt_or_eq_of_le (not_lt.1 not_below) with above | same
    · exact List.lt_asymm less (flatMap_lt_of_lt above)
    · rw [same] at less
      exact List.lt_irrefl _ less

end Text

/-- The names of a table ascend in the order of their bytes. -/
theorem Table.ascending_names {α : Type} (t : Table α) :
    t.names.Pairwise fun a b => Text.utf8 a < Text.utf8 b :=
  List.pairwise_map.2 (t.sorted.imp (Text.lt_iff_utf8_lt _ _).1)

end Dispatch
