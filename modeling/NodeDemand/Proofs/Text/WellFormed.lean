/-
# Which bytes are a text

The reader of `NodeDemand.Text.Utf8` reads the bytes of a text as that text (`decode_encode`).
Here is the other half: it reads no other bytes as a text (`decode_eq_ok_iff`).

Of a character under way the reader keeps only the bits read so far.  `Leads bytes p` says what
these stand for: whichever number of a character they are completed to, the form of the character
is `bytes` followed by the bytes still owed.  This is so after the first byte (`leads_of_start`),
each further byte keeps it (`Leads.more`), and the last one completes the character whose form has
been read (`Leads.last`).
-/
import NodeDemand.Proofs.Text.Utf8
import Mathlib.Algebra.Group.Nat.Defs
import Mathlib.Data.List.Induction

namespace NodeDemand.Utf8

/-- The last `n` bytes of the form of the character with the number `v`. -/
def owed (v : ℕ) : ℕ → List UInt8
  | 0 => []
  | n + 1 => UInt8.ofNat (v / 64 ^ n % 64 + 128) :: owed v n

/-! ### The forms of a character -/

section Forms

variable {v : ℕ}

lemma toNat_val_ofNat (h : v.isValidChar) : (Char.ofNat v).val.toNat = v := by
  rw [Char.ofNat, dif_pos h]
  rfl

lemma form_one (h : v < 0x80) : String.utf8EncodeChar (Char.ofNat v) = [UInt8.ofNat v] := by
  have hv : (Char.ofNat v).val.toNat = v := toNat_val_ofNat (Or.inl (by omega))
  simp only [String.utf8EncodeChar, hv]
  rw [if_pos (by omega)]

lemma form_two (h : 0x80 ≤ v) (h' : v < 0x800) :
    String.utf8EncodeChar (Char.ofNat v) = UInt8.ofNat (v / 64 + 192) :: owed v 1 := by
  have hv : (Char.ofNat v).val.toNat = v := toNat_val_ofNat (Or.inl (by omega))
  simp only [String.utf8EncodeChar, hv]
  rw [if_neg (by omega), if_pos (by omega), Nat.mod_eq_of_lt (show v / 64 < 32 by omega)]
  simp [owed]

lemma form_three (h : 0x800 ≤ v) (h' : v < 0x10000) (hscalar : v < 0xD800 ∨ 0xDFFF < v) :
    String.utf8EncodeChar (Char.ofNat v) = UInt8.ofNat (v / 4096 + 224) :: owed v 2 := by
  have hv : (Char.ofNat v).val.toNat = v :=
    toNat_val_ofNat (hscalar.imp id fun h => ⟨h, by omega⟩)
  simp only [String.utf8EncodeChar, hv]
  rw [if_neg (by omega), if_neg (by omega), if_pos (by omega),
    Nat.mod_eq_of_lt (show v / 4096 < 16 by omega)]
  simp [owed]

lemma form_four (h : 0x10000 ≤ v) (h' : v < 0x110000) :
    String.utf8EncodeChar (Char.ofNat v) = UInt8.ofNat (v / 262144 + 240) :: owed v 3 := by
  have hv : (Char.ofNat v).val.toNat = v := toNat_val_ofNat (Or.inr ⟨by omega, h'⟩)
  simp only [String.utf8EncodeChar, hv]
  rw [if_neg (by omega), if_neg (by omega), if_neg (by omega),
    Nat.mod_eq_of_lt (show v / 262144 < 8 by omega)]
  simp [owed]

end Forms

/-! ### Characters under way -/

/-- The bytes have led to what is under way. -/
structure Leads (bytes : List UInt8) (p : Pending) : Prop where
  /-- The next byte is one that follows others. -/
  low_le : 0x80 ≤ p.low
  /-- The next byte is one that follows others. -/
  le_high : p.high ≤ 0xBF
  /-- Every number that the bits read so far can be completed to is the number of a character
  whose form starts with the bytes. -/
  form : ∀ v, v / 64 ^ (p.more + 1) = p.bits → p.low ≤ v / 64 ^ p.more % 64 + 128 →
    v / 64 ^ p.more % 64 + 128 ≤ p.high →
      String.utf8EncodeChar (Char.ofNat v) = bytes ++ owed v (p.more + 1)

section Leads

variable {bytes : List UInt8} {b : UInt8} {p q : Pending} {c : Char}

lemma eq_ofNat {n k : ℕ} (h : n = b.toNat - k) (hk : k ≤ b.toNat) : UInt8.ofNat (n + k) = b := by
  rw [h, Nat.sub_add_cancel hk, UInt8.ofNat_toNat]

lemma leads_two (hb : 0xC2 ≤ b.toNat) (hb' : b.toNat < 0xE0) :
    Leads [b] ⟨b.toNat - 0xC0, 1, 0, 0x80, 0xBF⟩ := by
  refine ⟨Nat.le_refl _, Nat.le_refl _, ?_⟩
  intro v hbits _ _
  have hv : v / 64 = b.toNat - 192 := hbits
  rw [form_two (by omega) (by omega), eq_ofNat hv (by omega)]
  rfl

/-- The second of three bytes is bounded below and above, so that neither a character with a
shorter form nor a surrogate is meant. -/
lemma leads_three {low high : ℕ} (hb : 0xE0 ≤ b.toNat) (hb' : b.toNat < 0xF0)
    (hlow : 0x80 ≤ low) (hhigh : high ≤ 0xBF)
    (hshort : b.toNat = 0xE0 → 0xA0 ≤ low) (hsurrogate : b.toNat = 0xED → high ≤ 0x9F) :
    Leads [b] ⟨b.toNat - 0xE0, 1, 1, low, high⟩ := by
  refine ⟨hlow, hhigh, ?_⟩
  intro v hbits hleast hmost
  have hv : v / 4096 = b.toNat - 224 := hbits
  have hleast' : low ≤ v / 64 % 64 + 128 := hleast
  have hmost' : v / 64 % 64 + 128 ≤ high := hmost
  rw [form_three (by omega) (by omega) (by omega), eq_ofNat hv (by omega)]
  rfl

/-- The second of four bytes is bounded below and above, so that neither a character with a
shorter form nor a number beyond the last character is meant. -/
lemma leads_four {low high : ℕ} (hb : 0xF0 ≤ b.toNat) (hb' : b.toNat ≤ 0xF4)
    (hlow : 0x80 ≤ low) (hhigh : high ≤ 0xBF)
    (hshort : b.toNat = 0xF0 → 0x90 ≤ low) (hlast : b.toNat = 0xF4 → high ≤ 0x8F) :
    Leads [b] ⟨b.toNat - 0xF0, 1, 2, low, high⟩ := by
  refine ⟨hlow, hhigh, ?_⟩
  intro v hbits hleast hmost
  have hv : v / 262144 = b.toNat - 240 := hbits
  have hleast' : low ≤ v / 4096 % 64 + 128 := hleast
  have hmost' : v / 4096 % 64 + 128 ≤ high := hmost
  rw [form_four (by omega) (by omega), eq_ofNat hv (by omega)]
  rfl

/-- A byte that others follow leads to what is under way after it. -/
lemma leads_of_start (h : start b.toNat = .inr p) : Leads [b] p := by
  -- the bits are given as numbers where the byte is known, else as what the byte adds to the least
  unfold start at h
  split at h
  · exact absurd h (by simp)
  split at h
  · exact absurd h (by simp)
  split at h
  · obtain rfl := Sum.inr.inj h
    exact leads_two (by omega) (by omega)
  split at h
  · obtain rfl := Sum.inr.inj h
    have hbits : 0 = b.toNat - 0xE0 := by omega
    rw [hbits]
    exact leads_three (by omega) (by omega) (by omega) (by omega) (by omega) (by omega)
  split at h
  · obtain rfl := Sum.inr.inj h
    have hbits : 0xD = b.toNat - 0xE0 := by omega
    rw [hbits]
    exact leads_three (by omega) (by omega) (by omega) (by omega) (by omega) (by omega)
  split at h
  · obtain rfl := Sum.inr.inj h
    exact leads_three (by omega) (by omega) (by omega) (by omega) (by omega) (by omega)
  split at h
  · obtain rfl := Sum.inr.inj h
    have hbits : 0 = b.toNat - 0xF0 := by omega
    rw [hbits]
    exact leads_four (by omega) (by omega) (by omega) (by omega) (by omega) (by omega)
  split at h
  · obtain rfl := Sum.inr.inj h
    exact leads_four (by omega) (by omega) (by omega) (by omega) (by omega) (by omega)
  split at h
  · obtain rfl := Sum.inr.inj h
    have hbits : 4 = b.toNat - 0xF0 := by omega
    rw [hbits]
    exact leads_four (by omega) (by omega) (by omega) (by omega) (by omega) (by omega)
  · exact absurd h (by simp)

/-- A byte that nothing follows is the form of a character or belongs to none. -/
lemma form_of_start (h : start b.toNat = .inl (.char c)) : String.utf8EncodeChar c = [b] := by
  by_cases hone : b.toNat < 0x80
  · rw [start_one hone] at h
    obtain rfl := Piece.char.inj (Sum.inl.inj h)
    rw [form_one hone, UInt8.ofNat_toNat]
  · unfold start at h
    grind

/-- The bits of a byte that follows others are found again in every number that completes them. -/
lemma Leads.form_append (h : Leads bytes p) (hlow : p.low ≤ b.toNat) (hhigh : b.toNat ≤ p.high)
    {v : ℕ} (hv : v / 64 ^ p.more = p.bits * 64 + (b.toNat - 0x80)) :
    String.utf8EncodeChar (Char.ofNat v) = bytes ++ [b] ++ owed v p.more := by
  have hfirst := h.low_le
  have hlast := h.le_high
  have hbits : v / 64 ^ (p.more + 1) = p.bits := by
    rw [Nat.pow_succ, ← Nat.div_div_eq_div_mul, hv]
    omega
  have hbyte : v / 64 ^ p.more % 64 + 128 = b.toNat := by
    rw [hv]
    omega
  rw [h.form v hbits (by omega) (by omega), owed, hbyte, UInt8.ofNat_toNat, List.append_assoc]
  rfl

/-- What is under way after one more byte has been led to by this byte too. -/
lemma Leads.more (h : Leads bytes p) (hfeed : p.feed? b.toNat = some (.inr q)) :
    Leads (bytes ++ [b]) q := by
  unfold Pending.feed? at hfeed
  split at hfeed
  · rename_i hrange
    cases hmore : p.more with
    | zero => exact absurd hfeed (by simp [hmore])
    | succ more =>
      simp only [hmore, Option.some.injEq, Sum.inr.injEq] at hfeed
      subst hfeed
      refine ⟨Nat.le_refl _, Nat.le_refl _, ?_⟩
      intro v hv _ _
      rw [h.form_append hrange.1 hrange.2 (by rw [hmore]; exact hv), hmore]
  · exact absurd hfeed (by simp)

/-- The last byte of a form completes the character whose form has been read. -/
lemma Leads.last {piece : Piece} (h : Leads bytes p)
    (hfeed : p.feed? b.toNat = some (.inl piece)) :
    ∃ c, piece = .char c ∧ String.utf8EncodeChar c = bytes ++ [b] := by
  unfold Pending.feed? at hfeed
  split at hfeed
  · rename_i hrange
    cases hmore : p.more with
    | zero =>
      simp only [hmore, Option.some.injEq, Sum.inl.injEq] at hfeed
      refine ⟨_, hfeed.symm, ?_⟩
      rw [h.form_append hrange.1 hrange.2 (by rw [hmore, Nat.pow_zero, Nat.div_one]), hmore, owed,
        List.append_nil]
    | succ more => exact absurd hfeed (by simp [hmore])
  · exact absurd hfeed (by simp)

end Leads

/-! ### Byte sequences -/

/-- The bytes are those of the character under way, if there is one. -/
def UnderWay (bytes : List UInt8) : Option Pending → Prop
  | none => bytes = []
  | some p => Leads bytes p

/-- The bytes are those of the characters read and of the one under way, unless something has been
read that is no character. -/
def Accounts (bytes : List UInt8) (s : List Piece × Option Pending) : Prop :=
  (∃ piece ∈ s.1, ∀ c, piece ≠ .char c) ∨
    ∃ (cs : List Char) (front : List UInt8), s.1 = (cs.map Piece.char).reverse ∧
      bytes = cs.flatMap String.utf8EncodeChar ++ front ∧ UnderWay front s.2

section Accounts

variable {bytes front : List UInt8} {b : UInt8} {read : List Piece} {cs : List Char}

/-- A byte that completes a character adds the character to those read. -/
lemma accounts_char {c : Char} (hread : read = (cs.map Piece.char).reverse)
    (hform : String.utf8EncodeChar c = front ++ [b]) :
    Accounts (cs.flatMap String.utf8EncodeChar ++ front ++ [b]) (.char c :: read, none) := by
  refine Or.inr ⟨cs ++ [c], [], ?_, ?_, rfl⟩
  · simp [hread]
  · simp [hform]

/-- What has been read accounts for one more byte. -/
lemma accounts_feed {s : List Piece × Option Pending} (h : Accounts bytes s) (b : UInt8) :
    Accounts (bytes ++ [b]) (feed s b) := by
  obtain ⟨read, pending⟩ := s
  rcases h with ⟨piece, hpiece, hne⟩ | ⟨cs, front, hread, rfl, hfront⟩
  · exact Or.inl ⟨piece, List.mem_append_right _ hpiece, hne⟩
  · dsimp only at hread hfront
    cases pending with
    | none =>
      obtain rfl : front = [] := hfront
      cases hstart : start b.toNat with
      | inl piece =>
        have hfeed : feed (read, none) b = (piece :: read, none) := by simp [feed, step, hstart]
        rw [hfeed]
        cases piece with
        | char c => exact accounts_char hread (form_of_start hstart)
        | invalid n => exact Or.inl ⟨_, List.mem_cons_self, by simp⟩
        | truncated => exact Or.inl ⟨_, List.mem_cons_self, by simp⟩
      | inr p =>
        have hfeed : feed (read, none) b = (read, some p) := by simp [feed, step, hstart]
        rw [hfeed]
        exact Or.inr ⟨cs, [b], hread, by simp, leads_of_start hstart⟩
    | some p =>
      have hleads : Leads front p := hfront
      cases hnext : p.feed? b.toNat with
      | none =>
        -- the character under way is given up, and the bytes of it are no character
        refine Or.inl ⟨.invalid p.read, ?_, by simp⟩
        cases hstart : start b.toNat <;> simp [feed, step, hnext, hstart]
      | some next =>
        cases next with
        | inl piece =>
          obtain ⟨c, rfl, hform⟩ := hleads.last hnext
          have hfeed : feed (read, some p) b = (.char c :: read, none) := by
            simp [feed, step, hnext]
          rw [hfeed]
          exact accounts_char hread hform
        | inr q =>
          have hfeed : feed (read, some p) b = (read, some q) := by simp [feed, step, hnext]
          rw [hfeed]
          exact Or.inr ⟨cs, front ++ [b], hread, by simp, hleads.more hnext⟩

lemma accounts_foldl_feed (bytes : List UInt8) : Accounts bytes (bytes.foldl feed ([], none)) := by
  induction bytes using List.reverseRecOn with
  | nil => exact Or.inr ⟨[], [], rfl, rfl, rfl⟩
  | append_singleton bytes b ih =>
    rw [List.foldl_append]
    exact accounts_feed ih b

end Accounts

/-- Pieces are read as a text only if they are the characters of the text. -/
lemma eq_map_char_of_decodeFrom {offset : ℕ} {read cs : List Char} {found : List Piece}
    (h : decodeFrom offset read found = .ok cs) :
    ∃ rest, found = rest.map Piece.char ∧ cs = read.reverse ++ rest := by
  induction found generalizing offset read with
  | nil => exact ⟨[], rfl, by simpa [decodeFrom] using h.symm⟩
  | cons piece found ih =>
    cases piece with
    | char c =>
      obtain ⟨rest, rfl, rfl⟩ := ih h
      exact ⟨c :: rest, rfl, by simp⟩
    | invalid n => exact absurd h (by simp [decodeFrom])
    | truncated => exact absurd h (by simp [decodeFrom])

/-- Bytes whose pieces are characters are the bytes of these. -/
lemma eq_flatMap_of_pieces {bytes : List UInt8} {cs : List Char}
    (h : pieces bytes = cs.map Piece.char) : bytes = cs.flatMap String.utf8EncodeChar := by
  have hchars : ∀ piece ∈ pieces bytes, ∃ c, piece = .char c := by
    intro piece hpiece
    rw [h] at hpiece
    obtain ⟨c, -, rfl⟩ := List.mem_map.1 hpiece
    exact ⟨c, rfl⟩
  have haccounts := accounts_foldl_feed bytes
  rw [pieces_eq] at h hchars
  generalize bytes.foldl feed ([], none) = s at h hchars haccounts
  obtain ⟨read, pending⟩ := s
  cases pending with
  | some p =>
    -- bytes that end within a character have a piece that is none
    obtain ⟨c, hc⟩ := hchars .truncated (by simp)
    exact absurd hc (by simp)
  | none =>
    rcases haccounts with ⟨piece, hpiece, hne⟩ | ⟨cs', front, hread, rfl, hfront⟩
    · obtain ⟨c, hc⟩ := hchars piece (by simpa using hpiece)
      exact absurd hc (hne c)
    · obtain rfl : front = [] := hfront
      obtain rfl : read = (cs'.map Piece.char).reverse := hread
      have hmap : cs'.map Piece.char = cs.map Piece.char := by simpa using h
      rw [(List.map_inj_right fun _ _ => Piece.char.inj).1 hmap, List.append_nil]

/-- **The reader accepts exactly the bytes of texts**, each as the text that it has the bytes of. -/
theorem decode_eq_ok_iff {bytes : List UInt8} {cs : List Char} :
    decode bytes = .ok cs ↔ bytes = encode (String.ofList cs) := by
  rw [encode_eq_flatMap, String.toList_ofList]
  constructor
  · intro h
    obtain ⟨rest, hpieces, rfl⟩ := eq_map_char_of_decodeFrom h
    exact eq_flatMap_of_pieces hpieces
  · rintro rfl
    exact decode_flatMap cs

end NodeDemand.Utf8
