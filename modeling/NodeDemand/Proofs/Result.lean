/-
# Operations that may fail

A result of operations one after the other comes from results of each of them (`bind_eq_ok_iff`).
So a property that every result of each operation has, if the one before it had its own, is one of
every result of them all (`Yields.bind`).  Where an operation succeeds on every element of a list it
succeeds on the list (`mapM_eq_some_of_forall₂`).
-/
import Mathlib.Data.List.Forall2

namespace NodeDemand

variable {ε ε' α β : Type} {x : Except ε α}

lemma bind_eq_ok_iff {f : α → Except ε β} {b : β} :
    x.bind f = .ok b ↔ ∃ a, x = .ok a ∧ f a = .ok b := by
  cases x <;> simp [Except.bind]

lemma map_eq_ok_iff {f : α → β} {b : β} : x.map f = .ok b ↔ ∃ a, x = .ok a ∧ f a = b := by
  cases x <;> simp [Except.map]

lemma mapError_eq_ok_iff {f : ε → ε'} {a : α} : x.mapError f = .ok a ↔ x = .ok a := by
  cases x with
  | error e => exact iff_of_false nofun nofun
  | ok b =>
    constructor
    · rintro ⟨⟩
      rfl
    · rintro ⟨⟩
      rfl

/-- The result, if there is one, has a property. -/
def Yields (P : α → Prop) (x : Except ε α) : Prop := ∀ a, x = .ok a → P a

section Yields

variable {P : α → Prop} {Q : β → Prop}

lemma yields_error (error : ε) : Yields P (.error error) := fun _ h => absurd h (by simp)

lemma yields_ok {a : α} (h : P a) : Yields P (.ok a : Except ε α) := by
  rintro _ ⟨⟩
  exact h

lemma yields_true : Yields (fun _ : α => True) x := fun _ _ => trivial

lemma Yields.bind {f : α → Except ε β} (h : Yields P x) (hnext : ∀ a, P a → Yields Q (f a)) :
    Yields Q (x.bind f) := by
  intro b hb
  obtain ⟨a, ha, hfa⟩ := bind_eq_ok_iff.1 hb
  exact hnext a (h a ha) b hfa

lemma Yields.map {f : α → β} (h : Yields P x) (hnext : ∀ a, P a → Q (f a)) :
    Yields Q (x.map f) := by
  intro b hb
  obtain ⟨a, ha, rfl⟩ := map_eq_ok_iff.1 hb
  exact hnext a (h a ha)

end Yields

/-- If every element of a list is read, then so is the list. -/
lemma mapM_eq_some_of_forall₂ {f : α → Option β} {as : List α} {bs : List β}
    (h : List.Forall₂ (fun a b => f a = some b) as bs) : as.mapM f = some bs := by
  induction h with
  | nil => rfl
  | cons hread _ ih =>
    rw [List.mapM_cons, hread, ih]
    rfl

end NodeDemand
