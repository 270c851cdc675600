import Mjpeg.Log
import Mjpeg.Log.Directive
import Mjpeg.Text.Blank
import Mjpeg.Text.Quoted

/-!
# Which events are shown

A filter is a set of directives. Of the directives that apply to an event the most specific one
decides; an event to which none applies is not shown. No span is ever entered, so directives
that name a span show nothing, but they are part of the filter.

The filter comes from the environment when that holds a usable one, and else from the level
that the user asked for, with the networking libraries kept quiet.
-/

namespace Mjpeg.Log

/-- Directives for different things, the most specific first. -/
structure DirectiveSet where
  directives : List Directive
  /-- The greatest verbosity of any directive that was put in. -/
  maxVerbosity : Nat
  deriving Repr, DecidableEq

namespace DirectiveSet

/-- A directive put in its place; it replaces one that names the same. -/
def put (d : Directive) : List Directive → List Directive
  | [] => [d]
  | e :: es =>
    match d.compareNames e with
    | .eq => d :: es
    | .gt => d :: e :: es
    | .lt => e :: put d es

/-- The set of some directives. -/
def ofList (ds : List Directive) : DirectiveSet :=
  ⟨ds.foldl (fun es d => put d es) [], (ds.map Directive.verbosity).foldl max 0⟩

end DirectiveSet

/-- A filter for log events. -/
structure Filter where
  /-- The directives that can be told to apply from an event alone. -/
  events : DirectiveSet
  /-- The directives that depend on the spans around an event. -/
  spans : DirectiveSet
  deriving Repr, DecidableEq

namespace Filter

/-- The directive depends on the spans around an event. -/
def isScoped (d : Directive) : Bool := d.span.isSome || !d.fields.isEmpty

/-- The directive also applies to an event without a span. -/
def isPlain (d : Directive) : Bool := d.span.isNone && d.fields.all (·.value.isNone)

/-- The filter with the given directives. -/
def ofDirectives (ds : List Directive) : Filter :=
  let inScope := ds.filter isScoped
  { events := .ofList (ds.filter (!isScoped ·) ++ inScope.filter isPlain)
    spans := .ofList inScope }

/-- The filter that a text spells: directives separated by commas. -/
def parse? (text : List Char) : Option Filter :=
  (((Text.splitAll (· == ',') text).filter (!·.isEmpty)).mapM Directive.parse?).map ofDirectives

/-- The text of a filter. -/
def display (f : Filter) : String :=
  ",".intercalate ((f.events.directives ++ f.spans.directives).map Directive.display)

/-- The greatest verbosity that the filter may show. A value can only be looked at while a span
is open, so a directive that asks for one shows everything until then. -/
def maxVerbosity (f : Filter) : Nat :=
  if f.spans.directives.any fun d => d.fields.any (·.value.isSome) then Log.maxVerbosity
  else max f.events.maxVerbosity f.spans.maxVerbosity

/-- The targets of the networking libraries, which are kept at warnings. -/
def quietTargets : List String := ["hyper", "hyper_util", "reqwest", "rustls"]

/-- The filter for a level. -/
def ofLevel (level : Level) : Filter :=
  ofDirectives (.ofTarget none level.verbosity ::
    quietTargets.map fun t => .ofTarget (some t) Level.warn.verbosity)

/-- The filter from the environment, when that holds one, or for a level; and the warning about
a text in the environment that is none. -/
def choose (level : Level) (environment : Option String) : Filter × Option String :=
  let text := Text.trim (environment.getD "").toList
  if text.isEmpty then (ofLevel level, none)
  else match parse? text with
    | some f => (f, none)
    | none =>
      let warning := "warning: ignoring invalid RUST_LOG " ++ Text.quoted (String.ofList text)
      (ofLevel level, some warning)

/-- A directive applies to an event. Every event has a message. -/
def applies (d : Directive) (e : Event) : Bool :=
  (d.target.getD "").toList.isPrefixOf e.target.path.toList &&
    d.fields.all fun f => f.name == "message" || e.fields.any (·.1 == f.name)

/-- An event is shown. -/
def shows (f : Filter) (e : Event) : Bool :=
  match f.events.directives.find? (applies · e) with
  | none => false
  | some d => e.level.verbosity ≤ d.verbosity

end Filter

end Mjpeg.Log
