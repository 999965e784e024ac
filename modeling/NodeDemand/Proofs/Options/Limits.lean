/-
# Limits of a command line

The limits that a request takes from the words of a command line are positive
(`hasPositiveLimits_of_read`), because each switch refuses zero and nothing else writes a limit.
This is an invariant of the scan: every step yields positive limits if it is given positive limits.
-/
import NodeDemand.Options.Reader
import NodeDemand.Proofs.Result

namespace NodeDemand

namespace Options

/-! ### What the switches say -/

namespace Given

/-- The limit that switches say. -/
def limit? (given : Given) : Cluster.Limit → Option UInt64
  | .nodeSlots => given.nodeSlots
  | .maxSlots => given.maxSlots
  | .maxNodes => given.maxNodes

/-- No limit is zero. -/
def HasPositiveLimits (given : Given) : Prop := ∀ limit, given.limit? limit ≠ some 0

lemma HasPositiveLimits.of_ne {given : Given} (hnodeSlots : given.nodeSlots ≠ some 0)
    (hmaxSlots : given.maxSlots ≠ some 0) (hmaxNodes : given.maxNodes ≠ some 0) :
    given.HasPositiveLimits
  | .nodeSlots => hnodeSlots
  | .maxSlots => hmaxSlots
  | .maxNodes => hmaxNodes

end Given

variable {given : Given} {scan : Scan} {command : Option Command}

lemma yields_positive (value : String) : Yields (· ≠ 0) (positive value) := by
  unfold positive
  split
  · exact yields_error _
  · split
    · exact yields_error _
    · exact yields_ok ‹_›

/-- A switch that sets a limit refuses zero, and the others set no limit. -/
lemma yields_set (switch : Switch) (value : String) (h : given.HasPositiveLimits) :
    Yields Given.HasPositiveLimits (switch.set value given) := by
  cases switch with
  | nodeSlots =>
    exact (yields_positive value).map fun n hn =>
      .of_ne (mt Option.some.inj hn) (h .maxSlots) (h .maxNodes)
  | maxSlots =>
    exact (yields_positive value).map fun n hn =>
      .of_ne (h .nodeSlots) (mt Option.some.inj hn) (h .maxNodes)
  | maxNodes =>
    exact (yields_positive value).map fun n hn =>
      .of_ne (h .nodeSlots) (h .maxSlots) (mt Option.some.inj hn)
  | reason => exact yields_ok h
  | resourceReasons => exact yields_ok h
  | states => exact yields_ok h
  | help => exact yields_error _
  | version => exact yields_error _
  | _ => exact yields_true.map fun _ _ => h

/-! ### The scan -/

namespace Scan

lemma yields_give (switch : Switch) (value : String) (h : scan.given.HasPositiveLimits) :
    Yields (·.given.HasPositiveLimits) (scan.give switch value) := by
  unfold give
  split
  · exact yields_error _
  · exact (yields_set switch value h).map fun _ hgiven => hgiven

lemma yields_settle (h : scan.given.HasPositiveLimits) :
    Yields (·.given.HasPositiveLimits) scan.settle := by
  unfold settle
  split
  · exact yields_ok h
  · exact yields_error _
  · exact yields_give _ _ h

lemma yields_flag (switch : Switch) (h : scan.given.HasPositiveLimits) :
    Yields (·.given.HasPositiveLimits) (scan.flag switch) :=
  (yields_settle h).bind fun _ hsettled => yields_give switch "true" hsettled

lemma yields_long (name : String) (value : Option String) (h : scan.given.HasPositiveLimits) :
    Yields (·.given.HasPositiveLimits) (scan.long command name value) := by
  unfold long
  split
  · exact yields_error _
  · split
    · split
      · exact (yields_settle h).bind fun _ hsettled => yields_give _ _ hsettled
      · exact (yields_settle h).map fun _ hsettled => hsettled
    · split
      · exact yields_error _
      · exact yields_flag _ h

lemma yields_short (letters : List Char) (h : scan.given.HasPositiveLimits) :
    Yields (·.given.HasPositiveLimits) (scan.short command letters) := by
  unfold short
  split
  · exact yields_ok h
  · split
    · exact yields_error _
    · exact yields_flag _ h

lemma yields_plain (word : String) (h : scan.given.HasPositiveLimits) :
    Yields (·.given.HasPositiveLimits) (scan.plain command word) := by
  unfold plain
  split
  · exact yields_ok h
  · exact yields_error _

lemma yields_rest (words : List String) (h : scan.given.HasPositiveLimits) :
    Yields (·.given.HasPositiveLimits) (scan.rest command words) := by
  unfold rest
  split
  · exact yields_ok h
  · split
    · exact yields_error _
    · exact yields_error _

/-- Whatever the words are, the limits stay positive. -/
lemma yields_read (words : List String) (h : scan.given.HasPositiveLimits) :
    Yields (·.1.given.HasPositiveLimits) (scan.read command words) := by
  induction words generalizing scan with
  | nil => exact yields_ok h
  | cons word words ih =>
    unfold read
    split
    · exact yields_ok h
    · split
      · exact (yields_rest words h).map fun _ hrest => hrest
      · exact (yields_long _ _ h).bind fun _ hlong => ih hlong
      · exact (yields_short _ h).bind fun _ hshort => ih hshort
      · exact (yields_plain word h).bind fun _ hplain => ih hplain

end Scan

end Options

/-! ### The request -/

namespace PendingRequest

/-- The limit that a request gives. -/
def limit? (request : PendingRequest) : Cluster.Limit → Option UInt64
  | .nodeSlots => request.nodeSlots
  | .maxSlots => request.maxSlots
  | .maxNodes => request.maxNodes

/-- No limit is zero. -/
def HasPositiveLimits (request : PendingRequest) : Prop := ∀ limit, request.limit? limit ≠ some 0

end PendingRequest

namespace Options

lemma hasPositiveLimits_default : ({} : Given).HasPositiveLimits :=
  .of_ne (by simp) (by simp) (by simp)

/-- The limits of a request for pending jobs are positive where a command line gives them. -/
theorem hasPositiveLimits_of_read {env : Environment} {words : List String} {options : Options}
    {request : PendingRequest} (h : read env words = .ok options)
    (hrequest : options.request = .pending request) : request.HasPositiveLimits := by
  suffices hyields : Yields (fun options : Options => ∀ request,
      options.request = .pending request → request.HasPositiveLimits) (read env words) from
    hyields options h request hrequest
  unfold read
  refine yields_true.bind fun ⟨before, task⟩ _ => ?_
  cases task with
  | none =>
    exact yields_true.bind fun _ _ => yields_true.bind fun _ _ => yields_error _
  | some task =>
    obtain ⟨command, words⟩ := task
    refine (Scan.yields_read words hasPositiveLimits_default).bind fun ⟨after, _⟩ hread => ?_
    refine (Scan.yields_settle hread).bind fun after hsettled => ?_
    refine yields_true.bind fun environment _ => ?_
    refine yields_true.bind fun before _ => ?_
    refine yields_true.bind fun _ _ => yields_ok ?_
    intro request hrequest
    cases command with
    | pending =>
      obtain rfl := Request.pending.inj hrequest
      exact hsettled
    | jobs => exact absurd hrequest (by simp [ofGiven, Given.request])

end Options

end NodeDemand
