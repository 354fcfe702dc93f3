import TexSplice.Command.Basic
import TexSplice.Target.Boundary

/-! # Printing an outline

One line of data for every element, and one for the section that is looked for. -/
namespace TexSplice

def Mark.kindName : Mark → Text
  | .heading _ => "Section".toList
  | .opening _ => "EnvironmentStart".toList
  | .closing _ => "EnvironmentEnd".toList
  | .finish _ => "DocumentEndMarker".toList

namespace Command

def markFields : Mark → List (String × Json)
  | .heading h =>
    [ ("level", .text h.level.name), ("title", .text h.title), ("starred", .bool h.starred) ]
  | .opening name | .closing name => [("name", .text name)]
  | .finish command => [("command", .text command)]

def elementData (e : Element) : Json :=
  .record <|
    [ ("type", .text e.mark.kindName), ("line", .nat e.line), ("char_start", .nat e.span.start),
      ("char_end", .nat e.span.stop) ] ++ markFields e.mark

def sectionPreview : Nat := 160

def locatedData (target : Text) (b : Boundary) : Json :=
  .record
    [ ("event", .str "section_located"), ("target", .text target), ("title", .text b.frame.name),
      ("match_tier", .text b.tier.name), ("start_pos", .nat b.frame.start),
      ("end_pos", .nat b.frame.stop),
      ("preview", .text (b.frame.middle.take sectionPreview)) ]

def missingData (target : Text) (available : List Text) : Json :=
  .record
    [ ("event", .str "section_not_found"), ("target", .text target),
      ("available", .list (available.map .text)) ]

/-- Prints the outline of a file's text, and where a section is if one is named. -/
def scan (file : Text) (target : Option Text) : Outcome :=
  let t := Text.unifyLineEnds file
  let o := Outline.ofText t
  let elements := o.elements.map fun e => (elementData e).plain
  match target with
  | some (c :: rest) =>
    match o.boundary? t (c :: rest) with
    | some b =>
      { exitCode := 0, stdout := printLines (elements ++ [(locatedData (c :: rest) b).plain]) }
    | none =>
      { exitCode := 1
        stdout := printLines (elements ++ [(missingData (c :: rest) o.titles).plain]) }
  | _ => { exitCode := 0, stdout := printLines elements }

end Command

end TexSplice
