import BusExporter.Config.Basic

/-!
# Filters

The pull, watch and show-config commands look at the collectors and metrics whose names
match the regular expressions of the command line. What a regular expression matches is
a parameter.
-/

namespace BusExporter.Commands

open Foundation

/-- Whether a compiled regular expression is found in a text. -/
abbrev Matcher := String → Bool

section

variable (compile : String → Except String Matcher)

/-- The filter of an option of the command line. -/
def compileFilter (option : String) (filter : Option String) : Except Error (Option Matcher) :=
  match filter with
  | none => .ok none
  | some pattern =>
    match compile pattern with
    | .ok re => .ok (some re)
    | .error e => .error (.msg s!"invalid {option} regex: {e}")

/-- The part of a collector that matches, if it has a metric. -/
def filterCollector (collectorRe metricRe : Option Matcher) (c : CollectorConfig) :
    Option CollectorConfig :=
  if collectorRe.any (fun re => !re c.name) then none
  else
    let cc :=
      match metricRe with
      | some re => { c with metrics := c.metrics.filter fun m => re m.name }
      | none => c
    if cc.metrics.isEmpty then none else some cc

def filterCollectors (collectors : List CollectorConfig)
    (collectorFilter metricFilter : Option String) : Except Error (List CollectorConfig) := do
  let collectorRe ← compileFilter compile "--collector" collectorFilter
  let metricRe ← compileFilter compile "--metric" metricFilter
  return collectors.filterMap (filterCollector collectorRe metricRe)

end

end BusExporter.Commands
