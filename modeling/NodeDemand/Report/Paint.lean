/-
# Colours of a terminal

A painted text stands between the sequence that switches a style on and the one that switches all
styles off.  Both are escape sequences, so they take no column.
-/

namespace NodeDemand.Report

/-- A style of text. -/
inductive Paint where
  | bold
  | red
  | green
  | yellow
  | cyan
deriving DecidableEq, Repr

/-- The sequence that switches a style on. -/
def Paint.on : Paint → List Char
  | bold => ['\x1b', '[', '1', 'm']
  | red => ['\x1b', '[', '3', '1', 'm']
  | green => ['\x1b', '[', '3', '2', 'm']
  | yellow => ['\x1b', '[', '3', '3', 'm']
  | cyan => ['\x1b', '[', '3', '6', 'm']

/-- The sequence that switches all styles off. -/
def plain : List Char := ['\x1b', '[', '0', 'm']

/-- A painted text. -/
def Paint.paint (paint : Paint) (s : List Char) : List Char := paint.on ++ s ++ plain

end NodeDemand.Report
