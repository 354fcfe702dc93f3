import TexSplice.Text.Basic

/-! # Templates

A template is a list of pieces, fixed texts and places to fill in. What is filled in is never
read as part of the template, so braces in a document or in an instruction stay what they
are. -/
namespace TexSplice.Prompt

inductive Slot where
  | userMessage
  | selectedText
  | actionInstruction
  | targetSection
  | sectionTitle
  | sectionExcerpt
  | sectionContent
  | outputInstruction
  | insertionPoint
  | documentTail
deriving Repr, DecidableEq

def Slot.name : Slot → Text
  | userMessage => "user_message".toList
  | selectedText => "selected_text".toList
  | actionInstruction => "action_instruction".toList
  | targetSection => "target_section".toList
  | sectionTitle => "section_title".toList
  | sectionExcerpt => "section_excerpt".toList
  | sectionContent => "section_content".toList
  | outputInstruction => "output_instruction".toList
  | insertionPoint => "insertion_point".toList
  | documentTail => "document_tail".toList

inductive Piece where
  | fixed (t : Text)
  | slot (s : Slot)
deriving Repr, DecidableEq

def Piece.str (s : String) : Piece := .fixed s.toList

abbrev Template := List Piece

namespace Template

def fill (template : Template) (value : Slot → Text) : Text :=
  template.flatMap fun
    | .fixed t => t
    | .slot s => value s

/-- A template in its written form: slots by name in braces, braces of the text doubled. -/
def source (template : Template) : Text :=
  template.flatMap fun
    | .fixed t => t.flatMap fun c => if c = '{' || c = '}' then [c, c] else [c]
    | .slot s => '{' :: (s.name ++ ['}'])

end Template

end TexSplice.Prompt
