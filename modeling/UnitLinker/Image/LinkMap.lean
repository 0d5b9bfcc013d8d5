import UnitLinker.Image.Basic

/-!
# The link map of an image

Where every unit and symbol was placed, and the order in which units are
initialized and finalized.
-/

namespace UnitLinker

/-- The lines of one unit in the link map. -/
def UnitMap.mapLines (name : String) (map : UnitMap) : List String :=
  [s!"{map.kind.text} {name}",
    s!"  globals  {map.globals.start}..{map.globals.stop}",
    s!"  code     {map.code.start}..{map.code.stop}",
    s!"  init     @{map.init}",
    s!"  final    @{map.final}"]
    ++ map.routines.entries.map (fun entry =>
      s!"  @{Text.alignLeft 6 (toString entry.2.address)} {entry.1} {entry.2.signature.text}")
    ++ map.vars.entries.map (fun entry =>
      s!"  G{Text.alignLeft 6 (toString entry.2.global)} {entry.1} ({entry.2.visibility.text})")
    ++ [""]

/-- The link map as text. -/
def Image.linkMap (image : Image) : String :=
  Text.lines (image.units.entries.flatMap (fun entry => entry.2.mapLines entry.1)
    ++ ["init order: " ++ Text.joined ", " (image.initOrder.map EntryPoint.unit),
      "final order: " ++ Text.joined ", " (image.finalOrder.map EntryPoint.unit)])

end UnitLinker
