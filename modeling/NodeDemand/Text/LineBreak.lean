/-
# Where a line may end

The rules of Unicode's line breaking algorithm, in their order of precedence.  A text is read
class by class.  What counts about the part that has been read is the class of the last character
that is no combining mark, and what has followed it: spaces, a joiner, and a few facts that single
rules ask for.  Of the part that follows only the next class counts that does not combine.
`breaks` says for every character whether a line may end before it.
-/
import NodeDemand.Text.BreakClass

namespace NodeDemand.Text

/-- What counts about the part of a text that has been read. -/
structure BreakState where
  /-- The class of the last character, combining marks and spaces after it apart. -/
  last : BreakClass
  /-- Whether combining marks have followed it. -/
  marked : Bool := false
  /-- Whether spaces have followed it. -/
  spaced : Bool := false
  /-- Whether the part ends with a joiner. -/
  joined : Bool := false
  /-- Whether it ends with an odd number of regional indicators. -/
  oddIndicators : Bool := false
  /-- Whether it ends with a Hebrew letter and a hyphen. -/
  hebrewHyphen : Bool := false
  /-- Whether it ends with an opening quotation mark that begins a quotation. -/
  opensQuotation : Bool := false
  /-- Whether it ends with a letter of an orthographic syllable and a virama. -/
  conjoins : Bool := false
deriving DecidableEq, Repr

namespace BreakClass

/-- Classes after which a line always ends. -/
def endsLine (c : BreakClass) : Bool :=
  [mandatoryBreak, carriageReturn, lineFeed, nextLine].contains c

/-- Classes of characters that combine with the character before. -/
def combines (c : BreakClass) : Bool := c == combiningMark || c == joiner

/-- The class of a character that has nothing to combine with. -/
def standalone (c : BreakClass) : BreakClass := if c.combines then alphabetic else c

/-- Opening punctuation of any width. -/
def opens (c : BreakClass) : Bool := c == openPunctuation || c == wideOpenPunctuation

/-- Closing punctuation. -/
def closes (c : BreakClass) : Bool := c == closePunctuation || c == closeParenthesis

/-- Quotation marks of any kind. -/
def quotes (c : BreakClass) : Bool :=
  c == quotation || c == openingQuotation || c == closingQuotation

/-- Letters of alphabets and of scripts that are written without spaces. -/
def isLetter : BreakClass → Bool
  | alphabetic => true
  | hebrewLetter => true
  | dottedCircle => true
  | unspaced _ => true
  | _ => false

/-- Letters that begin an orthographic syllable. -/
def isAksara (c : BreakClass) : Bool := c == aksara || c == aksaraStart || c == dottedCircle

/-- Ideographs and pictographs. -/
def isIdeograph (c : BreakClass) : Bool :=
  c == ideographic || c == emojiBase || c == emojiModifier || c == reservedPictograph

/-- Hangul letters and syllables. -/
def isHangul (c : BreakClass) : Bool :=
  [leadingJamo, vowelJamo, trailingJamo, syllableLV, syllableLVT].contains c

/-- Whether two letters belong to scripts that are written without spaces, but not to the same. -/
def differInScript : BreakClass → BreakClass → Bool
  | unspaced a, unspaced b => a != b
  | _, _ => false

/-- The class of the next character that does not combine, if there is one. -/
def following : List BreakClass → Option BreakClass
  | [] => none
  | c :: rest => if c.combines then following rest else some c

/-- Whether a quotation mark that is followed by this class ends a quotation. -/
def followsQuotation (c : BreakClass) : Bool :=
  c == space || c == glue || c == wordJoiner || c.closes || c.quotes || c == exclamation ||
    c == infixNumeric || c == breakSymbol || c.endsLine || c == zeroWidthSpace

/-- Whether a quotation mark that directly follows this class begins a quotation. -/
def precedesQuotation (c : BreakClass) : Bool := c.opens || c.quotes || c == glue

/-- Whether two neighbours in a number or with a unit stay together. -/
def bindsNumber (a b : BreakClass) : Bool :=
  (b == numeric && [postfixNumeric, prefixNumeric, hyphen, infixNumeric, numeric,
    breakSymbol].contains a) ||
  ((b == postfixNumeric || b == prefixNumeric) && (a.closes || a == numeric)) ||
  (b.opens && (a == postfixNumeric || a == prefixNumeric))

/-- Whether two neighbours belong to one Hangul syllable. -/
def bindsHangul (a b : BreakClass) : Bool :=
  (a == leadingJamo && [leadingJamo, vowelJamo, syllableLV, syllableLVT].contains b) ||
  ((a == vowelJamo || a == syllableLV) && (b == vowelJamo || b == trailingJamo)) ||
  ((a == trailingJamo || a == syllableLVT) && b == trailingJamo)

/-- Whether two neighbours belong to one orthographic syllable, of which the classes `rest`
follow. -/
def bindsSyllable (a b : BreakClass) (rest : List BreakClass) : Bool :=
  (a == aksaraPrebase && b.isAksara) ||
  (a.isAksara && (b == virama || b == viramaFinal)) ||
  (a.isAksara && b.isAksara && following rest == some viramaFinal)

/-- Whether two neighbours stay together, by the rules for letters, numbers and ideographs. -/
def binds (a b : BreakClass) : Bool :=
  (a == breakSymbol && b == hebrewLetter) ||
  b == inseparable ||
  (a.isLetter && b == numeric) || (a == numeric && b.isLetter) ||
  (a == prefixNumeric && b.isIdeograph) || (a.isIdeograph && b == postfixNumeric) ||
  ((a == prefixNumeric || a == postfixNumeric) && b.isLetter) ||
  (a.isLetter && (b == prefixNumeric || b == postfixNumeric)) ||
  bindsNumber a b ||
  bindsHangul a b ||
  (a.isHangul && b == postfixNumeric) || (a == prefixNumeric && b.isHangul) ||
  (a.isLetter && b.isLetter) ||
  (a == infixNumeric && b.isLetter) ||
  ((a.isLetter || a == numeric) && b == openPunctuation) ||
  (a == closeParenthesis && (b.isLetter || b == numeric)) ||
  ((a == emojiBase || a == reservedPictograph) && b == emojiModifier)

end BreakClass

namespace BreakState

/-- The state after the first character of a line. -/
def start (c : BreakClass) : BreakState :=
  { last := c.standalone
    spaced := c == .space
    joined := c == .joiner
    oddIndicators := c == .regionalIndicator
    opensQuotation := c == .openingQuotation }

/-- Whether a line may end before a character that neither is a space nor combines, and that the
classes `rest` follow. -/
def allows (state : BreakState) (c : BreakClass) (rest : List BreakClass) : Bool :=
  let last := state.last
  if c == .wordJoiner || (last == .wordJoiner && !state.spaced) then false
  else if last == .glue && !state.spaced then false
  else if c == .glue && !state.spaced && last != .breakAfter && last != .hyphen then false
  else if c.closes || c == .exclamation || c == .infixNumeric || c == .breakSymbol then false
  else if last.opens || state.opensQuotation then false
  else if c == .closingQuotation &&
    (BreakClass.following rest).all BreakClass.followsQuotation then false
  else if last.closes && c == .nonstarter then false
  else if last == .breakBoth && c == .breakBoth then false
  else if state.spaced then true
  else if c.quotes || last.quotes then false
  else if c == .contingentBreak || last == .contingentBreak then true
  else if c == .breakAfter || c == .hyphen || c == .nonstarter || last == .breakBefore then false
  else if state.hebrewHyphen then false
  else if last == .regionalIndicator && c == .regionalIndicator then !state.oddIndicators
  else if last.differInScript c && !state.marked then true
  else if state.conjoins && (c == .aksara || c == .dottedCircle) then false
  else !(last.binds c || last.bindsSyllable c rest)

/-- The state after a character that neither is a space nor combines. -/
def next (state : BreakState) (c : BreakClass) : BreakState :=
  { last := c
    oddIndicators := c == .regionalIndicator &&
      !(state.last == .regionalIndicator && !state.spaced && state.oddIndicators)
    hebrewHyphen := state.last == .hebrewLetter && !state.spaced &&
      (c == .hyphen || c == .breakAfter)
    opensQuotation := c == .openingQuotation && (state.spaced || state.last.precedesQuotation)
    conjoins := c == .virama && !state.spaced && state.last.isAksara }

/-- Whether a line may end before a character that the classes `rest` follow, and the state after
it. -/
def step (state : BreakState) (c : BreakClass) (rest : List BreakClass) : Bool × BreakState :=
  if state.last == .carriageReturn && c == .lineFeed then (false, start c)
  else if state.last.endsLine then (true, start c)
  else if c.endsLine then (false, start c)
  else if c == .space then (false, { state with spaced := true, joined := false })
  else if c == .zeroWidthSpace then (false, start c)
  else if state.last == .zeroWidthSpace then (true, start c)
  else if c.combines && !state.spaced then
    (false, { state with marked := true, joined := c == .joiner })
  else
    let base := c.standalone
    (!state.joined && state.allows base rest, { state.next base with joined := c == .joiner })

end BreakState

/-- Whether a line may end before each of the characters that follow a state. -/
def breaksFrom (state : BreakState) : List BreakClass → List Bool
  | [] => []
  | c :: rest =>
    let (allowed, state) := state.step c rest
    allowed :: breaksFrom state rest

/-- Whether a line may end before each of the characters of the given classes. -/
def classBreaks : List BreakClass → List Bool
  | [] => []
  | c :: rest => false :: breaksFrom (.start c) rest

/-- Whether a line may end before each of the characters of a text. -/
def breaks (s : List Char) : List Bool := classBreaks (s.map breakClass)

/-! ### Scripts without spaces -/

/-- The scripts of runs of letters in scripts that are written without spaces, where `before` is
the class before the given ones.  A run has at least two letters; a part of it in one script
counts once. -/
def unspacedRunsFrom (before : BreakClass) : List BreakClass → List UnspacedScript
  | [] => []
  | c :: rest =>
    let scripts :=
      match before, c with
      | .unspaced a, .unspaced b =>
        if a = b then [] else [b]
      | _, .unspaced b =>
        match rest with
        | .unspaced _ :: _ => [b]
        | _ => []
      | _, _ => []
    scripts ++ unspacedRunsFrom c rest

/-- The scripts of runs of letters in scripts that are written without spaces, in order. -/
def unspacedRuns (cs : List BreakClass) : List UnspacedScript := unspacedRunsFrom .space cs

end NodeDemand.Text
