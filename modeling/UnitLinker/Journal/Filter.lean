import UnitLinker.Journal
import UnitLinker.Text.Blank
import UnitLinker.Text.Pattern.Admission

/-!
# Filters for records

Which records are shown: thresholds by origin, and a pattern that has to occur in
the text of a record. A filter is written as items between commas, and a pattern
after a slash.
-/

namespace UnitLinker.Journal

/-- A threshold for the origins whose names start with a text. -/
structure Directive where
  origin : String
  threshold : Threshold
  deriving DecidableEq, Repr

/-- Thresholds by origin, and possibly a pattern. Of several thresholds that apply, the
one with the longest name decides. -/
structure Filter where
  directives : List Directive
  pattern : Option Text.Pattern
  deriving DecidableEq, Repr

namespace Filter

/-- A filter with one threshold for all origins. -/
def ofThreshold (threshold : Threshold) : Filter := ⟨[⟨"", threshold⟩], none⟩

/-- The filter with a directive in place of any other for the same name. -/
def set (filter : Filter) (directive : Directive) : Filter :=
  ⟨filter.directives.filter (·.origin ≠ directive.origin) ++ [directive], filter.pattern⟩

/-- The directive with the longest name that an origin starts with. -/
def best? (filter : Filter) (origin : Origin) : Option Directive :=
  (filter.directives.filter fun directive =>
    directive.origin.toList.isPrefixOf origin.text.toList).foldl (fun best directive =>
      match best with
      | some other => if other.origin.utf8ByteSize < directive.origin.utf8ByteSize then some directive
        else best
      | none => some directive) none

/-- Whether a record is shown. -/
def admits (filter : Filter) (entry : Record) : Bool :=
  (match filter.best? entry.origin with
    | some directive => directive.threshold.admits entry.level
    | none => false)
  && (match filter.pattern with
    | some pattern => pattern.occursIn entry.text
    | none => true)

/-- The records that are shown. -/
def apply (filter : Filter) (records : List Record) : List Record := records.filter filter.admits

end Filter

/-- One item of a filter text: a level for all origins, a name for which all is
shown, or a name and a level. Any other item is refused with its wrong part. -/
def Directive.parse (item : String) : Except String Directive :=
  match Text.split '=' item with
  | [single] =>
    match Threshold.ofName? single with
    | some threshold => .ok ⟨"", threshold⟩
    | none => .ok ⟨single, some .trace⟩
  | [origin, level] =>
    let level := Text.trimmed level
    if level = "" then .ok ⟨origin, some .trace⟩
    else match Threshold.ofName? level with
      | some threshold => .ok ⟨origin, threshold⟩
      | none => .error level
  | _ => .error item

namespace Filter

/-- Adds the items of a filter text, and gives a warning for each refused item. -/
def addItems (filter : Filter) (items : String) : Filter × List String :=
  ((Text.split ',' items).map Text.trimmed |>.filter (· ≠ "")).foldl (fun state item =>
    match Directive.parse item with
    | .ok directive => (state.1.set directive, state.2)
    | .error part => (state.1, state.2 ++ [s!"warning: invalid logging spec '{part}', ignoring it"]))
    (filter, [])

/-- Adds a filter text: items and possibly a pattern. A pattern that cannot be read
does not count, and a text with a second slash does not count at all. -/
def extend (filter : Filter) (spec : String) : Filter × List String :=
  match Text.split '/' spec with
  | [items, text] =>
    let (extended, warnings) := filter.addItems items
    match Text.Pattern.ofText text with
    | .ok pattern => (⟨extended.directives, some pattern⟩, warnings)
    | .error refusal =>
      (extended, warnings ++ [s!"warning: invalid regex filter - {refusal.render text}"])
  | [items] => filter.addItems items
  | _ => (filter, [s!"warning: invalid logging spec '{spec}', ignoring it (too many '/'s)"])

end Filter

end UnitLinker.Journal
