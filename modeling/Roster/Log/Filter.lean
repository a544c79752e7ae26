import Roster.Log.Directive

/-!
# Filters of the log

A filter is a text of directives with commas between them.  Among the directives that are about a line the most
specific one decides.

* `LogFilter.read` — the filter a text stands for; the first fault in a directive is the fault of the filter.
* `LogFilter.ofVariable?` — the filter in a variable.  The standard filter stands in for one that is missing or
  malformed, but not for one that is cut inside a character.
* `LogFilter.tells` — whether a filter lets a line through.
* `LogFilter.mem_of_decisive?`, `rank_le_of_decisive?` — the directive that decides is one of the filter, about
  the line, and none of those is more specific.
-/

set_option autoImplicit false

namespace Roster

/-- A filter of the log. -/
abbrev LogFilter := List LogDirective

namespace LogFilter

/-- Told when no filter is given: everything from informative lines on. -/
def standard : LogFilter := [⟨LogSource.service.path, .anywhere, .info⟩]

/-- Told when a filter has no directive: errors. -/
def errorsOnly : LogFilter := [⟨"", .anywhere, .error⟩]

/-- The filter a text stands for. -/
def read (text : String) : Except FilterFault LogFilter :=
  let pieces := (text.toList.splitOn ',').filter (· ≠ [])
  if pieces.isEmpty then .ok errorsOnly else pieces.mapM LogDirective.read

/-- The variable that holds the filter. -/
def variableName : String := "RUST_LOG"

/-- The filter in a variable. -/
def ofVariable? (value : Option String) : Option LogFilter :=
  match value.map read with
  | none => some standard
  | some (.ok f) => some f
  | some (.error .malformed) => some standard
  | some (.error .brokenCharacter) => none

/-- The directive that decides about a source: the most specific one, the last of those when there are
several. -/
def decisive? (f : LogFilter) (source : LogSource) : Option LogDirective :=
  (f.reverse.filter (·.isAbout source)).maxOn? LogDirective.rank

theorem mem_of_decisive? {f : LogFilter} {source : LogSource} {d : LogDirective}
    (h : f.decisive? source = some d) : d ∈ f ∧ d.isAbout source = true := by
  obtain ⟨hf, ha⟩ := List.mem_filter.1 (List.maxOn?_mem h)
  exact ⟨List.mem_reverse.1 hf, ha⟩

theorem rank_le_of_decisive? {f : LogFilter} {source : LogSource} {d d' : LogDirective}
    (h : f.decisive? source = some d) (hf : d' ∈ f) (ha : d'.isAbout source = true) :
    d'.rank ≤ d.rank := by
  unfold decisive? at h
  have hm : d' ∈ f.reverse.filter (·.isAbout source) :=
    List.mem_filter.2 ⟨List.mem_reverse.2 hf, ha⟩
  have hle := List.le_apply_get_maxOn?_of_mem (f := LogDirective.rank) hm
  simp only [h, Option.get_some] at hle
  exact hle

/-- Whether a line is told. -/
def tells (f : LogFilter) (line : LogLine) : Bool :=
  (f.decisive? line.source).any (·.verbosity.includes line.level)

/-- The lines that are told. -/
def keep (f : LogFilter) (lines : List LogLine) : List LogLine := lines.filter f.tells

end LogFilter

end Roster
