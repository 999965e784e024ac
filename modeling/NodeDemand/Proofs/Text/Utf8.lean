/-
# Texts are read back from their bytes

`decode_encode` says that the bytes of a text are read as that text.  The reader works byte by
byte, so the proof follows the four forms that the bytes of a character have: `start` sees from
the first byte how many are to come (`start_two`, `start_three`, `start_four`), and the bytes
after it complete the number of the character six bits at a time (`step_more`, `step_last`).
-/
import NodeDemand.Text.Utf8
import Mathlib.Data.Nat.Notation
import Mathlib.Tactic.Lemma

namespace NodeDemand.Utf8

/-! ### The first byte of a character -/

lemma start_one {v : ℕ} (h : v < 0x80) : start v = .inl (.char (Char.ofNat v)) :=
  if_pos h

lemma start_two {v : ℕ} (h : 0x80 ≤ v) (h' : v < 0x800) :
    start (v / 64 + 192) = .inr ⟨v / 64, 1, 0, 0x80, 0xBF⟩ := by
  rw [start, if_neg (by omega), if_neg (by omega), if_pos (by omega), Nat.add_sub_cancel]

/-- The first of three bytes bounds the second one, which belongs neither to a character that has
a shorter form nor to a surrogate. -/
lemma start_three {v : ℕ} (h : 0x800 ≤ v) (h' : v < 0x10000)
    (hscalar : v < 0xD800 ∨ 0xDFFF < v) :
    ∃ low high, start (v / 4096 + 224) = .inr ⟨v / 4096, 1, 1, low, high⟩ ∧
      low ≤ v / 64 % 64 + 128 ∧ v / 64 % 64 + 128 ≤ high := by
  rw [start, if_neg (by omega), if_neg (by omega), if_neg (by omega)]
  split
  · exact ⟨0xA0, 0xBF, by simp; omega, by omega, by omega⟩
  · split
    · exact ⟨0x80, 0x9F, by simp; omega, by omega, by omega⟩
    · rw [if_pos (by omega), Nat.add_sub_cancel]
      exact ⟨0x80, 0xBF, rfl, by omega, by omega⟩

/-- The first of four bytes bounds the second one, which belongs neither to a character that has
a shorter form nor to a number beyond the last character. -/
lemma start_four {v : ℕ} (h : 0x10000 ≤ v) (h' : v < 0x110000) :
    ∃ low high, start (v / 262144 + 240) = .inr ⟨v / 262144, 1, 2, low, high⟩ ∧
      low ≤ v / 4096 % 64 + 128 ∧ v / 4096 % 64 + 128 ≤ high := by
  rw [start, if_neg (by omega), if_neg (by omega), if_neg (by omega), if_neg (by omega),
    if_neg (by omega), if_neg (by omega)]
  split
  · exact ⟨0x90, 0xBF, by simp; omega, by omega, by omega⟩
  · split
    · rw [Nat.add_sub_cancel]
      exact ⟨0x80, 0xBF, rfl, by omega, by omega⟩
    · rw [if_pos (by omega)]
      exact ⟨0x80, 0x8F, by simp; omega, by omega, by omega⟩

/-! ### Bytes, one after the other -/

/-- The pieces so far, in reverse order, and the character under way, after one more byte. -/
def feed (s : List Piece × Option Pending) (b : UInt8) : List Piece × Option Pending :=
  ((step s.2 b.toNat).1.reverse ++ s.1, (step s.2 b.toNat).2)

lemma pieces_eq (bytes : List UInt8) : pieces bytes =
    (if (bytes.foldl feed ([], none)).2.isSome then
      Piece.truncated :: (bytes.foldl feed ([], none)).1
    else (bytes.foldl feed ([], none)).1).reverse := rfl

section Feed

variable {read : List Piece} {bits count more low high x v : ℕ}

lemma feed_single {c : Char} (hbyte : x < 256) (h : start x = .inl (.char c)) :
    feed (read, none) (UInt8.ofNat x) = (.char c :: read, none) := by
  rw [feed, UInt8.toNat_ofNat_of_lt' hbyte]
  simp [step, h]

lemma feed_start {p : Pending} (hbyte : x < 256) (h : start x = .inr p) :
    feed (read, none) (UInt8.ofNat x) = (read, some p) := by
  rw [feed, UInt8.toNat_ofNat_of_lt' hbyte]
  simp [step, h]

lemma feed_more (hbits : x < 64) (hlow : low ≤ x + 128) (hhigh : x + 128 ≤ high) :
    feed (read, some ⟨bits, count, more + 1, low, high⟩) (UInt8.ofNat (x + 128)) =
      (read, some ⟨bits * 64 + x, count + 1, more, 0x80, 0xBF⟩) := by
  rw [feed, UInt8.toNat_ofNat_of_lt' (show x + 128 < 256 by omega)]
  simp [step, Pending.feed?, hlow, hhigh]

lemma feed_last (hbits : x < 64) (hlow : low ≤ x + 128) (hhigh : x + 128 ≤ high) :
    feed (read, some ⟨bits, count, 0, low, high⟩) (UInt8.ofNat (x + 128)) =
      (.char (Char.ofNat (bits * 64 + x)) :: read, none) := by
  rw [feed, UInt8.toNat_ofNat_of_lt' (show x + 128 < 256 by omega)]
  simp [step, Pending.feed?, hlow, hhigh]

/-! ### The forms of a character -/

lemma foldl_feed_one (h : v < 0x80) :
    [UInt8.ofNat v].foldl feed (read, none) = (.char (Char.ofNat v) :: read, none) := by
  rw [List.foldl_cons, feed_single (by omega) (start_one h)]
  rfl

lemma foldl_feed_two (h : 0x80 ≤ v) (h' : v < 0x800) :
    [UInt8.ofNat (v / 64 % 32 + 192), UInt8.ofNat (v % 64 + 128)].foldl feed (read, none) =
      (.char (Char.ofNat v) :: read, none) := by
  have hbits : v / 64 * 64 + v % 64 = v := by omega
  rw [Nat.mod_eq_of_lt (show v / 64 < 32 by omega), List.foldl_cons, List.foldl_cons,
    feed_start (by omega) (start_two h h'), feed_last (by omega) (by omega) (by omega), hbits]
  rfl

lemma foldl_feed_three (h : 0x800 ≤ v) (h' : v < 0x10000) (hscalar : v < 0xD800 ∨ 0xDFFF < v) :
    [UInt8.ofNat (v / 4096 % 16 + 224), UInt8.ofNat (v / 64 % 64 + 128),
        UInt8.ofNat (v % 64 + 128)].foldl feed (read, none) =
      (.char (Char.ofNat v) :: read, none) := by
  obtain ⟨low, high, hstart, hlow, hhigh⟩ := start_three h h' hscalar
  have hbits : (v / 4096 * 64 + v / 64 % 64) * 64 + v % 64 = v := by omega
  rw [Nat.mod_eq_of_lt (show v / 4096 < 16 by omega), List.foldl_cons, List.foldl_cons,
    List.foldl_cons, feed_start (by omega) hstart, feed_more (by omega) hlow hhigh,
    feed_last (by omega) (by omega) (by omega), hbits]
  rfl

lemma foldl_feed_four (h : 0x10000 ≤ v) (h' : v < 0x110000) :
    [UInt8.ofNat (v / 262144 % 8 + 240), UInt8.ofNat (v / 4096 % 64 + 128),
        UInt8.ofNat (v / 64 % 64 + 128), UInt8.ofNat (v % 64 + 128)].foldl feed (read, none) =
      (.char (Char.ofNat v) :: read, none) := by
  obtain ⟨low, high, hstart, hlow, hhigh⟩ := start_four h h'
  have hbits : ((v / 262144 * 64 + v / 4096 % 64) * 64 + v / 64 % 64) * 64 + v % 64 = v := by omega
  rw [Nat.mod_eq_of_lt (show v / 262144 < 8 by omega), List.foldl_cons, List.foldl_cons,
    List.foldl_cons, List.foldl_cons, feed_start (by omega) hstart,
    feed_more (by omega) hlow hhigh, feed_more (by omega) (by omega) (by omega),
    feed_last (by omega) (by omega) (by omega), hbits]
  rfl

end Feed

/-! ### Characters and texts -/

/-- The bytes of a character add that character to the pieces. -/
lemma foldl_feed_utf8EncodeChar (c : Char) (read : List Piece) :
    (String.utf8EncodeChar c).foldl feed (read, none) = (.char c :: read, none) := by
  have hscalar : c.val.toNat < 0xD800 ∨ 0xDFFF < c.val.toNat ∧ c.val.toNat < 0x110000 := c.valid
  have hchar : Char.ofNat c.val.toNat = c := Char.ofNat_toNat c
  simp only [String.utf8EncodeChar]
  split
  · rw [foldl_feed_one (by omega), hchar]
  · split
    · rw [foldl_feed_two (by omega) (by omega), hchar]
    · split
      · rw [foldl_feed_three (by omega) (by omega) (by omega), hchar]
      · rw [foldl_feed_four (by omega) (by omega), hchar]

lemma foldl_feed_flatMap (cs : List Char) (read : List Piece) :
    (cs.flatMap String.utf8EncodeChar).foldl feed (read, none) =
      ((cs.map Piece.char).reverse ++ read, none) := by
  induction cs generalizing read with
  | nil => rfl
  | cons c cs ih =>
    rw [List.flatMap_cons, List.foldl_append, foldl_feed_utf8EncodeChar, ih, List.map_cons,
      List.reverse_cons, List.append_assoc]
    rfl

lemma decodeFrom_map_char (offset : ℕ) (read cs : List Char) :
    decodeFrom offset read (cs.map Piece.char) = .ok (read.reverse ++ cs) := by
  induction cs generalizing offset read with
  | nil => rw [List.map_nil, decodeFrom, List.append_nil]
  | cons c cs ih =>
    rw [List.map_cons, decodeFrom, ih, List.reverse_cons, List.append_assoc]
    rfl

/-- The bytes of characters are read as these characters. -/
lemma decode_flatMap (cs : List Char) : decode (cs.flatMap String.utf8EncodeChar) = .ok cs := by
  have hpieces : pieces (cs.flatMap String.utf8EncodeChar) = cs.map Piece.char := by
    rw [pieces_eq, foldl_feed_flatMap, List.append_nil]
    exact List.reverse_reverse _
  rw [decode, hpieces, decodeFrom_map_char]
  rfl

lemma toList_loop (bytes : ByteArray) (i : ℕ) (read : List UInt8) :
    ByteArray.toList.loop bytes i read = read.reverse ++ bytes.data.toList.drop i := by
  fun_induction ByteArray.toList.loop bytes i read with
  | case1 i read h ih =>
    have hi : i < bytes.data.toList.length := by simpa using h
    rw [ih, List.drop_eq_getElem_cons hi]
    simp [ByteArray.get!, h]
  | case2 i read h =>
    rw [List.drop_eq_nil_of_le (by simpa using Nat.le_of_not_lt h), List.append_nil]

lemma encode_eq_flatMap (s : String) : encode s = s.toList.flatMap String.utf8EncodeChar := by
  rw [encode, String.toUTF8_eq_toByteArray, ← String.utf8Encode_toList, ByteArray.toList,
    toList_loop, List.reverse_nil, List.nil_append, List.drop_zero, List.utf8Encode,
    List.data_toByteArray]

/-- **Reading undoes writing.**  The bytes of a text are read as that text. -/
theorem decode_encode (s : String) : decode (encode s) = .ok s.toList := by
  rw [encode_eq_flatMap, decode_flatMap]

end NodeDemand.Utf8
