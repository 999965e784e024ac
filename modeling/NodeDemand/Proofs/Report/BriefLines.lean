/-
# Brief lines read back

The brief form prints a line for each job, which is the job's name, a space and its node count.  No
name is quoted, and yet no two lists of jobs with other names or node counts are printed alike, as
long as no name has a line feed: a numeral has no space, so the last space of a line stands before
the count, whatever the name looks like (`cutLast?_append`).

`pending_brief_decodable` puts this together.  Names from a table have no line feed, because they
are cells of its lines (`Table.no_feed_id_of_mem_read`).
-/
import NodeDemand.Proofs.Result
import NodeDemand.Proofs.Table.Cells
import NodeDemand.Proofs.Table.Policies
import NodeDemand.Proofs.Text.Numeral
import NodeDemand.Report.Basic

namespace NodeDemand

/-! ### Names in a table -/

/-- The name of a job that is read from a table has no line feed. -/
lemma Table.no_feed_id_of_mem_read {policy : Policy} {text : String} {jobs : List Job}
    (h : (read policy text).value = .ok jobs) {job : Job} (hjob : job ∈ jobs) :
    '\n' ∉ job.id.toList := by
  obtain ⟨header, i, row, hi, hrow, rfl⟩ := exists_row_of_mem_read h hjob
  obtain ⟨line, hline, rfl⟩ := List.mem_map.1 hrow
  have hfeed := Text.not_mem_of_mem_lines (List.mem_of_mem_filter hline)
  rw [id_rowJob hi, cellAt]
  cases hcell : (cells line)[i]? with
  | none => exact List.not_mem_nil
  | some cell => exact fun hmem => hfeed (mem_of_mem_cell (List.mem_of_getElem? hcell) hmem)

namespace Report

/-! ### Reading lines -/

/-- The parts of a line before and behind the last place of a separator. -/
def cutLast? (sep : Char) : List Char → Option (List Char × List Char)
  | [] => none
  | c :: rest =>
    match cutLast? sep rest with
    | some (front, back) => some (c :: front, back)
    | none => if c = sep then some ([], rest) else none

/-- The name and the node count on a line. -/
def readJobLine? (line : List Char) : Option (String × UInt64) :=
  (cutLast? ' ' line).bind fun parts =>
    (readCount parts.2).toOption.map fun n => (String.ofList parts.1, n)

/-- The names and node counts on the lines of a text.  Behind the last line feed there is no line. -/
def readJobLines? (text : String) : Option (List (String × UInt64)) :=
  (Text.splitAt '\n' text.toList).dropLast.mapM readJobLine?

lemma cutLast?_of_not_mem {sep : Char} {line : List Char} (h : sep ∉ line) :
    cutLast? sep line = none := by
  induction line with
  | nil => rfl
  | cons c line ih =>
    obtain ⟨hc, hline⟩ := not_or.1 (mt List.mem_cons.2 h)
    rw [cutLast?, ih hline]
    exact if_neg (Ne.symm hc)

/-- A line is cut where no separator follows. -/
lemma cutLast?_append {sep : Char} (front : List Char) {back : List Char} (h : sep ∉ back) :
    cutLast? sep (front ++ sep :: back) = some (front, back) := by
  induction front with
  | nil =>
    rw [List.nil_append, cutLast?, cutLast?_of_not_mem h]
    exact if_pos rfl
  | cons c front ih => rw [List.cons_append, cutLast?, ih]

/-! ### Lines of jobs -/

/-- What a line says of a job, without its end. -/
def jobText (job : Job) : List Char := job.id.toList ++ ' ' :: Decimal.write job.nodes.toNat

lemma readJobLine?_jobText (job : Job) : readJobLine? (jobText job) = some (job.id, job.nodes) := by
  have hspace : ' ' ∉ Decimal.write job.nodes.toNat := by
    intro hmem
    exact absurd (Decimal.isDigit_of_mem_write hmem) (by decide)
  rw [readJobLine?, jobText, cutLast?_append _ hspace, Option.bind_some, readCount_write,
    String.ofList_toList]
  rfl

lemma no_feed_jobText {job : Job} (h : '\n' ∉ job.id.toList) : '\n' ∉ jobText job := by
  intro hmem
  rcases List.mem_append.1 hmem with hmem | hmem
  · exact h hmem
  · rcases List.mem_cons.1 hmem with hmem | hmem
    · exact absurd hmem (by decide)
    · exact absurd (Decimal.isDigit_of_mem_write hmem) (by decide)

lemma jobLines_eq (jobs : List Job) :
    jobLines jobs = String.ofList ((jobs.map jobText).flatMap fun line => line ++ ['\n']) := by
  rw [jobLines, List.flatMap_map]
  rfl

/-- Every line is read as the name and the node count of its job. -/
lemma readJobLines?_jobLines {jobs : List Job} (h : ∀ job ∈ jobs, '\n' ∉ job.id.toList) :
    readJobLines? (jobLines jobs) = some (jobs.map fun job => (job.id, job.nodes)) := by
  have hfeed : ∀ line ∈ jobs.map jobText, '\n' ∉ line := by
    intro line hline
    obtain ⟨job, hjob, rfl⟩ := List.mem_map.1 hline
    exact no_feed_jobText (h job hjob)
  rw [readJobLines?, jobLines_eq, String.toList_ofList, Text.splitAt_flatMap hfeed,
    List.dropLast_concat]
  refine mapM_eq_some_of_forall₂ ?_
  rw [List.forall₂_map_left_iff, List.forall₂_map_right_iff, List.forall₂_same]
  exact fun job _ => readJobLine?_jobText job

/-- Nothing of a job is printed but its name and its node count. -/
lemma jobLines_congr {xs ys : List Job}
    (h : List.Forall₂ (fun a b => a.id = b.id ∧ a.nodes = b.nodes) xs ys) :
    jobLines xs = jobLines ys := by
  have htexts : xs.map jobText = ys.map jobText := by
    rw [← List.forall₂_eq_eq_eq, List.forall₂_map_left_iff, List.forall₂_map_right_iff]
    refine h.imp ?_
    rintro a b ⟨hid, hnodes⟩
    rw [jobText, jobText, hid, hnodes]
  rw [jobLines_eq, jobLines_eq, htexts]

/-- **Brief lines are read back.**  If no name has a line feed, then the text that is printed for
pending jobs, split at line feeds and each line at its last space, gives their names and node counts
in order.  So two lists are printed alike exactly if they are equally long and agree in names and
node counts, position by position.  The names of the jobs of a table never have a line feed. -/
theorem pending_brief_decodable :
    (∀ (colored : Bool) (jobs : List Job), (∀ job ∈ jobs, '\n' ∉ job.id.toList) →
      readJobLines? (Form.brief.pending colored jobs).value.stdout =
        some (jobs.map fun job => (job.id, job.nodes))) ∧
    (∀ (colored colored' : Bool) (xs ys : List Job), (∀ job ∈ xs, '\n' ∉ job.id.toList) →
      (∀ job ∈ ys, '\n' ∉ job.id.toList) →
      ((Form.brief.pending colored xs).value.stdout =
          (Form.brief.pending colored' ys).value.stdout ↔
        List.Forall₂ (fun a b => a.id = b.id ∧ a.nodes = b.nodes) xs ys)) ∧
    ∀ (policy : Policy) (text : String) (jobs : List Job),
      (Table.read policy text).value = .ok jobs → ∀ job ∈ jobs, '\n' ∉ job.id.toList := by
  refine ⟨fun _ jobs => readJobLines?_jobLines, ?_, ?_⟩
  · intro colored colored' xs ys hxs hys
    change jobLines xs = jobLines ys ↔ _
    refine ⟨fun h => ?_, jobLines_congr⟩
    have hread := readJobLines?_jobLines hxs
    rw [h, readJobLines?_jobLines hys, Option.some.injEq, ← List.forall₂_eq_eq_eq,
      List.forall₂_map_left_iff, List.forall₂_map_right_iff] at hread
    exact hread.flip.imp fun a b heq => ⟨congrArg Prod.fst heq.symm, congrArg Prod.snd heq.symm⟩
  · exact fun policy text jobs hread job hjob => Table.no_feed_id_of_mem_read hread hjob

/-- Jobs with a name that looks like a line of its own, and one without a name. -/
def oddNames : List Job := [{ id := "7 12", nodes := 3 }, { id := "", nodes := 40 }]

/-- The two lines have three spaces, of which one belongs to a name. -/
theorem pending_brief_decodable_oddNames :
    (∀ job ∈ oddNames, '\n' ∉ job.id.toList) ∧
    (Form.brief.pending false oddNames).value.stdout = "7 12 3\n 40\n" ∧
    readJobLines? "7 12 3\n 40\n" = some [("7 12", 3), ("", 40)] := by
  have hfeed : ∀ job ∈ oddNames, '\n' ∉ job.id.toList := by decide
  have hprinted : (Form.brief.pending false oddNames).value.stdout = "7 12 3\n 40\n" := by
    decide +kernel
  have hread := pending_brief_decodable.1 false oddNames hfeed
  rw [hprinted] at hread
  exact ⟨hfeed, hprinted, hread⟩

end Report

end NodeDemand
