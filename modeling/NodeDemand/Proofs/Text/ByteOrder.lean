/-
# The order of texts is the order of their bytes

Texts are compared character by character, by code point.  UTF-8 keeps this order: of two
characters the lesser one has the lesser bytes, whatever bytes follow (`utf8EncodeChar_lt`).  The
first byte tells characters with few bytes from those with more, and the bytes of characters with
equally many are the digits of the code point.  So a text that comes before another has the lesser
bytes (`encode_lt_encode`).
-/
import NodeDemand.Proofs.Text.Utf8

namespace NodeDemand.Utf8

section FirstByte

variable {x y : ℕ} {s t : List UInt8}

/-- A lesser first byte decides the order. -/
lemma cons_lt_cons_of_lt (hlt : x < y) (hy : y < 256) :
    UInt8.ofNat x :: s < UInt8.ofNat y :: t := by
  have hbyte : UInt8.ofNat x < UInt8.ofNat y := by
    rwa [UInt8.lt_iff_toNat_lt, UInt8.toNat_ofNat_of_lt' (show x < 256 by omega),
      UInt8.toNat_ofNat_of_lt' hy]
  exact List.cons_lt_cons_iff.2 (Or.inl hbyte)

/-- Equal first bytes leave the order to the bytes after them. -/
lemma cons_lt_cons_of_le (hle : x ≤ y) (hy : y < 256) (hrest : x = y → s < t) :
    UInt8.ofNat x :: s < UInt8.ofNat y :: t := by
  rcases Nat.lt_or_eq_of_le hle with hlt | rfl
  · exact cons_lt_cons_of_lt hlt hy
  · exact List.cons_lt_cons_iff.2 (Or.inr ⟨rfl, hrest rfl⟩)

end FirstByte

/-- A lesser character has lesser bytes. -/
lemma utf8EncodeChar_lt {c d : Char} (h : c < d) (s t : List UInt8) :
    String.utf8EncodeChar c ++ s < String.utf8EncodeChar d ++ t := by
  have hlt : c.val.toNat < d.val.toNat := h
  have hscalar : d.val.toNat < 0xD800 ∨ 0xDFFF < d.val.toNat ∧ d.val.toNat < 0x110000 := d.valid
  simp only [String.utf8EncodeChar]
  -- the greater character has no fewer bytes; where it has more, its first byte is greater
  split
  · split
    · exact cons_lt_cons_of_lt (by omega) (by omega)
    · split
      · exact cons_lt_cons_of_lt (by omega) (by omega)
      · split <;> exact cons_lt_cons_of_lt (by omega) (by omega)
  · rw [if_neg (show ¬ d.val.toNat ≤ 0x7F by omega)]
    split
    · split
      · refine cons_lt_cons_of_le (by omega) (by omega) fun _ => ?_
        exact cons_lt_cons_of_lt (by omega) (by omega)
      · split <;> exact cons_lt_cons_of_lt (by omega) (by omega)
    · rw [if_neg (show ¬ d.val.toNat ≤ 0x7FF by omega)]
      split
      · split
        · refine cons_lt_cons_of_le (by omega) (by omega) fun _ => ?_
          refine cons_lt_cons_of_le (by omega) (by omega) fun _ => ?_
          exact cons_lt_cons_of_lt (by omega) (by omega)
        · exact cons_lt_cons_of_lt (by omega) (by omega)
      · rw [if_neg (show ¬ d.val.toNat ≤ 0xFFFF by omega)]
        refine cons_lt_cons_of_le (by omega) (by omega) fun _ => ?_
        refine cons_lt_cons_of_le (by omega) (by omega) fun _ => ?_
        refine cons_lt_cons_of_le (by omega) (by omega) fun _ => ?_
        exact cons_lt_cons_of_lt (by omega) (by omega)

lemma flatMap_utf8EncodeChar_lt {cs ds : List Char} (h : cs < ds) :
    cs.flatMap String.utf8EncodeChar < ds.flatMap String.utf8EncodeChar := by
  induction cs generalizing ds with
  | nil =>
    cases ds with
    | nil => exact absurd h (List.not_lt_nil [])
    | cons d ds =>
      obtain ⟨b, rest, hbytes⟩ := List.exists_cons_of_ne_nil (@String.utf8EncodeChar_ne_nil d)
      rw [List.flatMap_nil, List.flatMap_cons, hbytes]
      exact List.nil_lt_cons b _
  | cons c cs ih =>
    cases ds with
    | nil => exact absurd h (List.not_lt_nil (c :: cs))
    | cons d ds =>
      rw [List.flatMap_cons, List.flatMap_cons]
      rcases List.cons_lt_cons_iff.1 h with hlt | ⟨rfl, hrest⟩
      · exact utf8EncodeChar_lt hlt _ _
      · exact List.append_left_lt (ih hrest)

/-- **UTF-8 keeps the order of texts.**  A text that comes before another has lesser bytes. -/
theorem encode_lt_encode {a b : String} (h : a < b) : encode a < encode b := by
  rw [encode_eq_flatMap, encode_eq_flatMap]
  exact flatMap_utf8EncodeChar_lt (String.lt_iff.1 h)

/-- Different texts have different bytes. -/
lemma encode_injective {a b : String} (h : encode a = encode b) : a = b := by
  have hdecode := decode_encode a
  rw [h, decode_encode, Except.ok.injEq] at hdecode
  exact String.toList_injective hdecode.symm

end NodeDemand.Utf8
