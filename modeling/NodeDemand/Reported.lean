/-
# Values with notices

An operation that reports what it notices on the way yields its value together with its notices,
in the order in which they were made.
-/

namespace NodeDemand

/-- A value and the notices that were made while it was found. -/
structure Reported (ν α : Type) where
  /-- The value. -/
  value : α
  /-- The notices, in order. -/
  notices : List ν
deriving DecidableEq, Repr

namespace Reported

variable {ν μ α β : Type}

/-- A value without notices. -/
def silent (value : α) : Reported ν α := ⟨value, []⟩

/-- The value changed, the notices kept. -/
def map (f : α → β) (r : Reported ν α) : Reported ν β := ⟨f r.value, r.notices⟩

/-- The notices changed, the value kept. -/
def mapNotices (f : ν → μ) (r : Reported ν α) : Reported μ α := ⟨r.value, r.notices.map f⟩

/-- The operation `next` on a value, with the notices of both. -/
def andThen (r : Reported ν α) (next : α → Reported ν β) : Reported ν β :=
  ⟨(next r.value).value, r.notices ++ (next r.value).notices⟩

/-- The operation `next` on a value, unless there is an error instead. -/
def andThenOk {ε : Type} (r : Reported ν (Except ε α)) (next : α → Reported ν (Except ε β)) :
    Reported ν (Except ε β) :=
  match r.value with
  | .error e => ⟨.error e, r.notices⟩
  | .ok a => ⟨(next a).value, r.notices ++ (next a).notices⟩

end Reported

/-- How grave a notice is. -/
inductive Level where
  | error
  | warn
  | info
  | debug
deriving DecidableEq, Repr

/-- The name of a level. -/
def Level.name : Level → String
  | error => "ERROR"
  | warn => "WARN"
  | info => "INFO"
  | debug => "DEBUG"

/-- The rank of a level; graver levels have lower ranks. -/
def Level.rank : Level → Nat
  | error => 1
  | warn => 2
  | info => 3
  | debug => 4

end NodeDemand
