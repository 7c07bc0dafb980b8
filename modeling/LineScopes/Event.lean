/-
What happens while lines are tokenized.

An `Event` is a call to the pattern engine or something worth reporting.  The
operations return their events in order; nothing is printed.

* `Event.notice?` — the message for a reader of the log, and how serious it is.
-/
import LineScopes.Grammar
import LineScopes.Text.Span

namespace LineScopes

/-- What a plan does to the stack when its pattern matches. -/
inductive PlanKind where
  /-- Nothing. -/
  | plain
  /-- Opens the rule. -/
  | opening
  /-- Closes the rule. -/
  | closing
deriving DecidableEq, Repr

/-- The name of the kind in messages. -/
def PlanKind.label : PlanKind → String
  | .plain => "Match"
  | .opening => "Begin"
  | .closing => "End"

/-- A call to the engine, or something worth reporting. -/
inductive Event where
  /-- The engine is about to compile a pattern. -/
  | compiling (pattern : String)
  /-- The engine compiled a pattern, or refused it. -/
  | compiled (pattern : String) (ok : Bool)
  /-- The engine searched for a pattern from a byte on. -/
  | searched (pattern : String) (start : Nat) (found : Option Span)
  /-- All resolved patterns are dropped. -/
  | droppingResolved (count : Nat)
  /-- The innermost state names a rule that does not exist. -/
  | openRuleMissing (rule : RuleId)
  /-- A rule lists a rule that does not exist. -/
  | listedRuleMissing (rule : RuleId)
  /-- A reference is met that is expanded already. -/
  | referenceRepeated (rule : RuleId)
  /-- A container is met that is expanded already. -/
  | containerRepeated (rule : RuleId)
  /-- A line has more bytes than the limit allows. -/
  | lineTooLong (size limit : Nat)
  /-- A match is about to be applied. -/
  | applying (kind : PlanKind) (rule : RuleId) (span : Span)
  /-- A match belongs to a rule that does not exist. -/
  | appliedRuleMissing (rule : RuleId)
  /-- A match without text is found a second time at the same byte. -/
  | repeatedEmptyMatch (kind : PlanKind) (rule : RuleId) (pos : Nat)
  /-- The closing pattern of the root matched. -/
  | rootClosed
  /-- A selector ended before its text did. -/
  | selectorStopped (pos : Nat)
deriving DecidableEq, Repr

/-- How serious a notice is. -/
inductive Level where
  | warning
  | detail
  | trace
deriving DecidableEq, Repr

/-- Serious levels have small numbers. -/
def Level.rank : Level → Nat
  | .warning => 0
  | .detail => 1
  | .trace => 2

/-- A message for a reader of the log. -/
structure Notice where
  level : Level
  message : String
deriving DecidableEq, Repr

/-- A rule as messages name it. -/
def ruleLabel (id : RuleId) : String := "RuleId(" ++ toString id ++ ")"

/-- The message about an event; none about what the engine itself does. -/
def Event.notice? : Event → Option Notice
  | .compiling pattern => some ⟨.detail, "compiling pattern " ++ Text.quote pattern⟩
  | .compiled _ _ => none
  | .searched _ _ _ => none
  | .droppingResolved count =>
    some ⟨.detail, "dropping " ++ toString count ++ " resolved end patterns"⟩
  | .openRuleMissing rule =>
    some ⟨.warning, "open rule " ++ ruleLabel rule ++ " is missing from the grammar"⟩
  | .listedRuleMissing rule => some ⟨.warning, "pattern refers to missing rule " ++ ruleLabel rule⟩
  | .referenceRepeated rule =>
    some ⟨.detail, "include " ++ ruleLabel rule ++ " already expanded; skipping"⟩
  | .containerRepeated rule =>
    some ⟨.detail, "container " ++ ruleLabel rule ++ " already expanded; skipping"⟩
  | .lineTooLong size limit =>
    some ⟨.warning, "line of " ++ toString size ++ " bytes exceeds the " ++ toString limit ++
      " byte limit; not tokenized"⟩
  | .applying kind rule span =>
    some ⟨.trace, "applying " ++ kind.label ++ " of rule " ++ ruleLabel rule ++ " at " ++
      span.toText⟩
  | .appliedRuleMissing rule =>
    some ⟨.warning, "matched rule " ++ ruleLabel rule ++ " is missing from the grammar"⟩
  | .repeatedEmptyMatch kind rule pos =>
    some ⟨.warning, "grammar repeats a zero-width " ++ kind.label ++ " of rule " ++
      ruleLabel rule ++ " at byte " ++ toString pos ++
      "; leaving the rest of the line in the current scope"⟩
  | .rootClosed => some ⟨.detail, "end pattern of the root rule matched; root state kept"⟩
  | .selectorStopped pos =>
    some ⟨.detail, "selector parsing stopped at byte " ++ toString pos ++
      " with unconsumed input"⟩

/-- The notices about the events, those less serious than `level` left out. -/
def notices (level : Level) (events : List Event) : List Notice :=
  (events.filterMap Event.notice?).filter fun n => n.level.rank ≤ level.rank

end LineScopes
