import SourceCatalog.Log.Directive

/-!
# Filters

A filter is a list of directives. Of those that decide over an event everywhere, the one with the
longest target does so, and of two alike the later one; a directive for a span shows more within
that span, unless a later one is like it. Spans count as events of the level `info`.
-/

namespace SourceCatalog.Log

abbrev Filter := List Directive

namespace Filter

def deciding? (filter : Filter) (decides : Directive → Bool) : Option Directive :=
  (filter.filter decides).foldl
    (fun best directive => if best.any directive.yieldsTo then best else some directive)
    none

def lasting : Filter → Filter
  | [] => []
  | head :: tail => if tail.any (·.isLike head) then lasting tail else head :: lasting tail

/-- The highest rank that is shown within a span, whatever else is shown. -/
def rankWithin (filter : Filter) (span : Span) : Nat :=
  (filter.lasting.filter (·.holdsWithin span)).foldl
    (fun rank directive => max rank directive.rank) 0

def shows (filter : Filter) (event : Event) : Bool :=
  (filter.deciding? (·.decidesEvent event)).any (event.level.rank ≤ ·.rank) ||
    event.spans.any (event.level.rank ≤ filter.rankWithin ·)

/-- Whether a span is shown that lies within others. -/
def showsSpan (filter : Filter) (outer : List Span) (span : Span) : Bool :=
  (filter.deciding? (·.decidesTarget span.target)).any (Level.info.rank ≤ ·.rank) ||
    filter.any (·.names span) || outer.any (Level.info.rank ≤ filter.rankWithin ·)

/-- The shown ones of some spans, each within the others before it and the given ones. -/
def shownSpans (filter : Filter) (outer : List Span) : List Span → List Span
  | [] => []
  | span :: inner =>
    let others := filter.shownSpans (outer ++ [span]) inner
    if filter.showsSpan outer span then span :: others else others

/-- What a filter leaves of an event: nothing, or the event within the spans that are shown. -/
def apply (filter : Filter) (event : Event) : Option Event :=
  if filter.shows event then some { event with spans := filter.shownSpans [] event.spans }
  else none

def rankFor (verbosity : Nat) : Nat :=
  min (Level.info.rank + verbosity) Level.trace.rank

def standing (verbosity : Nat) : Filter :=
  [.ofTarget "typesharp".toList (rankFor verbosity), .ofTarget "tsdev".toList (rankFor verbosity)]

/-- The filter that a text writes: its directives, with commas between them. Without any directive
only errors are shown. -/
def parse? (written : Text) : Option Filter := do
  let directives ← ((Text.pieces ',' written).filter (!·.isEmpty)).mapM Directive.parse?
  return if directives.isEmpty then [.ofTarget [] Level.error.rank] else directives

/-- The filter that is in force: the one that is asked for, if it can be read, or the standing
one. -/
def inForce (requested : Option Text) (verbosity : Nat) : Filter :=
  (requested.bind parse?).getD (standing verbosity)

end Filter

end SourceCatalog.Log
