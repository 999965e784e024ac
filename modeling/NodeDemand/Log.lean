/-
# The log

Notices are shown on lines of their own, as far as a filter admits them.  A filter is written as a
list of directives, each of which gives the gravest levels that are shown: for all notices, or for
those whose origin begins with a name.  Among the directives that concern a notice the one with the
longest name decides.  Behind a slash a filter may have a pattern that the message has to agree
with.
-/
import NodeDemand.Notice
import NodeDemand.Pattern.Meaning
import NodeDemand.Text.Utf8

namespace NodeDemand.Log

/-! ### Filters -/

/-- A directive of a filter. -/
structure Directive where
  /-- The start of the origins that it concerns, if it does not concern all. -/
  target : Option String
  /-- The greatest rank of a level that is shown. -/
  most : Nat
deriving DecidableEq, Repr

/-- A filter of notices. -/
structure Filter where
  /-- The directives, in order. -/
  directives : List Directive
  /-- The pattern that a message has to agree with. -/
  pattern : Option Pattern.Expr := none
deriving DecidableEq, Repr

/-- The names of the greatest ranks that are shown. -/
def rankNames : List (String × Nat) :=
  [("off", 0), ("error", 1), ("warn", 2), ("info", 3), ("debug", 4), ("trace", 5)]

/-- The rank that shows every notice. -/
def everything : Nat := 5

/-- The greatest rank by its name, in any case. -/
def rank? (name : List Char) : Option Nat :=
  rankNames.lookup (String.ofList (Text.asciiLowerCase name))

/-- A part of a filter that is no directive. -/
structure Malformed where
  /-- What is said in its place. -/
  text : List Char
deriving DecidableEq, Repr

/-- The directive that a part of a filter is. -/
def directive (text : List Char) : Except Malformed Directive :=
  match Text.splitAt '=' text with
  | [single] =>
    match rank? single with
    | some most => .ok ⟨none, most⟩
    | none => .ok ⟨some (String.ofList single), everything⟩
  | [name, level] =>
    let level := Text.trim level
    if level.isEmpty then .ok ⟨some (String.ofList name), everything⟩
    else match rank? level with
      | some most => .ok ⟨some (String.ofList name), most⟩
      | none => .error ⟨level⟩
  | _ => .error ⟨text⟩

/-- The parts of a list of directives. -/
def directiveTexts (text : List Char) : List (List Char) :=
  ((Text.splitAt ',' text).map Text.trim).filter (!·.isEmpty)

/-- Directives with one added, which replaces the one for the same origins. -/
def put (d : Directive) : List Directive → List Directive
  | [] => [d]
  | e :: rest => if e.target = d.target then d :: rest else e :: put d rest

/-- The warning that a part of a filter is passed over. -/
def Malformed.warning (part : Malformed) : String :=
  "warning: invalid logging spec '" ++ String.ofList part.text ++ "', ignoring it"

/-- The warning that a filter with more than one slash is passed over. -/
def slashWarning (text : String) : String :=
  "warning: invalid logging spec '" ++ text ++ "' (too many '/'s), ignoring it"

/-- The warning that a pattern is passed over. -/
def patternWarning (refusal : Pattern.Refusal) : String :=
  "warning: invalid regex filter - " ++ refusal.message ++ ", ignoring it"

/-- Directives over those that hold by default, and warnings about parts that are none. -/
def readDirectives (base : List Directive) (list : List Char) : List Directive × List String :=
  let parts := (directiveTexts list).map directive
  (parts.foldl (fun ds part => part.toOption.elim ds (put · ds)) base,
    parts.filterMap fun part =>
      match part with
      | .ok _ => none
      | .error malformed => some malformed.warning)

/-- The filter that a text says, over a level that is shown by default, and warnings about parts
of the text that say nothing. -/
def Filter.ofText (default : Level) (text : String) : Filter × List String :=
  let base : List Directive := [⟨none, default.rank⟩]
  match Text.splitAt '/' text.toList with
  | [list] =>
    let (directives, warnings) := readDirectives base list
    (⟨directives, none⟩, warnings)
  | [list, pattern] =>
    let (directives, warnings) := readDirectives base list
    match Pattern.Expr.ofText pattern with
    | .ok e => (⟨directives, some e⟩, warnings)
    | .error refusal => (⟨directives, none⟩, warnings ++ [patternWarning refusal])
  | _ => (⟨base, none⟩, [slashWarning text])

/-- Whether a directive concerns the notices of an origin. -/
def Directive.concerns (d : Directive) (origin : String) : Bool :=
  d.target.all fun name => name.toList.isPrefixOf origin.toList

/-- The length of the name in a directive. -/
def Directive.size (d : Directive) : Nat := d.target.elim 0 String.utf8ByteSize

/-- The directive that decides about an origin: of those with the longest name the last. -/
def decisive? (origin : String) (ds : List Directive) : Option Directive :=
  (ds.filter (·.concerns origin)).foldl
    (fun best d => if best.all (·.size ≤ d.size) then some d else best) none

/-- Whether a filter admits a notice. -/
def Filter.admits (filter : Filter) (notice : Notice) : Bool :=
  (decisive? notice.origin filter.directives).any (notice.level.rank ≤ ·.most) &&
    filter.pattern.all (·.agrees notice.message.toList)

/-! ### Lines -/

/-- A notice as a line. -/
def line (notice : Notice) : String := notice.level.name ++ " " ++ notice.message

/-- The name of a level, filled up to the longest. -/
def filledName (level : Level) : String :=
  level.name ++ String.ofList (List.replicate (5 - level.name.length) ' ')

/-- A notice with its origin.  The lines of a message after the first are indented. -/
def detailedLine (notice : Notice) : String :=
  "[" ++ filledName notice.level ++ " " ++ notice.origin ++ "] " ++
    String.ofList
      (Text.joinWith ['\n', ' ', ' ', ' ', ' '] (Text.splitAt '\n' notice.message.toList))

/-- Whether a text occurs in another. -/
def occursIn (part : List Char) : List Char → Bool
  | [] => part.isEmpty
  | c :: rest => part.isPrefixOf (c :: rest) || occursIn part rest

/-- How notices are shown. -/
structure Settings where
  /-- Which notices are shown. -/
  filter : Filter
  /-- Whether they are shown with their origins. -/
  detailed : Bool
  /-- Warnings about the filter. -/
  warnings : List String
deriving DecidableEq, Repr

/-- The settings of a run: what is shown by default depends on whether more is to be reported, and
a filter may be given. -/
def Settings.ofRun (debug : Bool) (spec : Option String) : Settings :=
  let (filter, warnings) := Filter.ofText (if debug then .debug else .info) (spec.getD "")
  { filter, warnings
    detailed := debug || spec.any fun text => occursIn "debug".toList text.toList }

/-- The text of the log of a run. -/
def Settings.text (settings : Settings) (notices : List Notice) : String :=
  let shown := (notices.filter settings.filter.admits).map
    fun notice => if settings.detailed then detailedLine notice else line notice
  String.join ((settings.warnings ++ shown).map (· ++ "\n"))

end NodeDemand.Log
