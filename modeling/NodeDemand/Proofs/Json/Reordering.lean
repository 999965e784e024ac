/-
# Values up to the order of members

The members of an object have no order of their own.  Two values are the same (`Json.Same`) if they
differ at most in the order of members, at any depth.

* `exists_array` says that the elements of an array are the same, in order;
* `exists_lookup` says that an object without repeated names binds them to the same values in any
  order, and `exists_lookups` says so of several names together;
* `exists_perm` says that an object of scalars can only have its members in another order.
-/
import NodeDemand.Json.Basic
import NodeDemand.Proofs.Lookup
import Mathlib.Data.List.Perm.Basic

namespace NodeDemand.Json

/-- Two values are the same but for the order of the members of their objects. -/
inductive Same : Json → Json → Prop where
  | refl (v : Json) : Same v v
  /-- The elements are the same, in order. -/
  | array {vs ws : List Json} (h : List.Forall₂ Same vs ws) : Same (.array vs) (.array ws)
  /-- The members are the same, once those of the first are put in the order of the second. -/
  | object {ms ms' ns : List (String × Json)} (hperm : ms.Perm ms')
      (hnames : ms'.map Prod.fst = ns.map Prod.fst)
      (h : List.Forall₂ Same (ms'.map Prod.snd) (ns.map Prod.snd)) : Same (.object ms) (.object ns)

/-- Two members have one name and the same value. -/
def SameMember (m n : String × Json) : Prop := m.1 = n.1 ∧ Same m.2 n.2

lemma forall₂_sameMember {ms ns : List (String × Json)}
    (hnames : ms.map Prod.fst = ns.map Prod.fst)
    (h : List.Forall₂ Same (ms.map Prod.snd) (ns.map Prod.snd)) :
    List.Forall₂ SameMember ms ns := by
  rw [← List.forall₂_eq_eq_eq, List.forall₂_map_left_iff, List.forall₂_map_right_iff] at hnames
  rw [List.forall₂_map_left_iff, List.forall₂_map_right_iff] at h
  rw [List.forall₂_iff_zip] at hnames h ⊢
  exact ⟨h.1, fun hmem => ⟨hnames.2 hmem, h.2 hmem⟩⟩

namespace Same

variable {w : Json}

/-! ### Scalars and arrays -/

lemma eq_ofCount {n : UInt64} (h : Same (.ofCount n) w) : w = .ofCount n := by
  cases h
  rfl

lemma eq_text {s : String} (h : Same (.text s) w) : w = .text s := by
  cases h
  rfl

lemma exists_array {vs : List Json} (h : Same (.array vs) w) :
    ∃ ws, w = .array ws ∧ List.Forall₂ Same vs ws := by
  cases h with
  | refl => exact ⟨vs, rfl, List.forall₂_same.2 fun v _ => .refl v⟩
  | array h => exact ⟨_, rfl, h⟩

/-! ### Objects -/

variable {ms : List (String × Json)}

lemma exists_object (h : Same (.object ms) w) :
    ∃ ms' ns, w = .object ns ∧ ms.Perm ms' ∧ List.Forall₂ SameMember ms' ns := by
  cases h with
  | refl => exact ⟨ms, ms, rfl, .refl ms, List.forall₂_same.2 fun m _ => ⟨rfl, .refl m.2⟩⟩
  | object hperm hnames h => exact ⟨_, _, rfl, hperm, forall₂_sameMember hnames h⟩

lemma exists_lookup_of_forall₂ {ns : List (String × Json)} (h : List.Forall₂ SameMember ms ns)
    {name : String} {v : Json} (hv : ms.lookup name = some v) :
    ∃ v', ns.lookup name = some v' ∧ Same v v' := by
  induction h with
  | nil => exact absurd hv (by simp)
  | @cons m n ms ns hmember _ ih =>
    obtain ⟨hname, hvalue⟩ := hmember
    rw [List.lookup_cons] at hv ⊢
    rw [← hname]
    split at hv
    · rw [Option.some.injEq] at hv
      exact ⟨n.2, rfl, hv ▸ hvalue⟩
    · exact ih hv

/-- An object without repeated names binds them to the same values in any order. -/
lemma exists_lookup (h : Same (.object ms) w) (hnodup : (ms.map Prod.fst).Nodup) :
    ∃ ns, w = .object ns ∧
      ∀ name v, ms.lookup name = some v → ∃ v', ns.lookup name = some v' ∧ Same v v' := by
  obtain ⟨ms', ns, rfl, hperm, hmembers⟩ := h.exists_object
  refine ⟨ns, rfl, fun name v hv => ?_⟩
  rw [lookup_eq_of_perm hperm hnodup] at hv
  exact exists_lookup_of_forall₂ hmembers hv

/-- Several names of an object are bound to the same values in any order. -/
lemma exists_lookups (h : Same (.object ms) w) (hnodup : (ms.map Prod.fst).Nodup)
    {names : List String} {vs : List Json}
    (hvs : List.Forall₂ (fun name v => ms.lookup name = some v) names vs) :
    ∃ ns, w = .object ns ∧
      ∃ vs', names.mapM (List.lookup · ns) = some vs' ∧ List.Forall₂ Same vs vs' := by
  obtain ⟨ns, rfl, hlookup⟩ := h.exists_lookup hnodup
  refine ⟨ns, rfl, ?_⟩
  induction hvs with
  | nil => exact ⟨[], rfl, .nil⟩
  | cons hv _ ih =>
    obtain ⟨v', hv', hsame⟩ := hlookup _ _ hv
    obtain ⟨vs', hvs', hsames⟩ := ih
    refine ⟨v' :: vs', ?_, .cons hsame hsames⟩
    rw [List.mapM_cons, hv', hvs']
    rfl

/-- If no value of an object has another form, only the order of its members can differ. -/
lemma exists_perm (h : Same (.object ms) w) (hvalues : ∀ m ∈ ms, ∀ v, Same m.2 v → v = m.2) :
    ∃ ns, w = .object ns ∧ ns.Perm ms := by
  obtain ⟨ms', ns, rfl, hperm, hmembers⟩ := h.exists_object
  have heq : ms' = ns := by
    rw [List.forall₂_iff_zip] at hmembers
    rw [← List.forall₂_eq_eq_eq, List.forall₂_iff_zip]
    refine ⟨hmembers.1, fun hmem => ?_⟩
    obtain ⟨hname, hvalue⟩ := hmembers.2 hmem
    have hmem' := hperm.mem_iff.2 (List.of_mem_zip hmem).1
    exact Prod.ext hname (hvalues _ hmem' _ hvalue).symm
  exact ⟨ns, rfl, heq ▸ hperm.symm⟩

end Same

end NodeDemand.Json
