import TexSplice.Action
import TexSplice.Prompt.Template

/-! # The wording of prompts

Every text that is sent to the generator, in one place. -/
namespace TexSplice.Prompt

/-- What the generator is told about its work before any request. -/
def systemText : Text :=
  Text.ofParts
  [ "\nYou are a writing assistant embedded in a LaTeX editor for academic papers.\nYou ",
    "help the author edit one part of their document at a time.\nAnswer with LaTeX code ",
    "inside a single ```latex fenced block when you produce content.\nNever output ",
    "\\documentclass, \\begin\x7bdocument\x7d or \\end\x7bdocument\x7d unless explicitly ",
    "asked.\n" ]

/-! ## With a selection -/

def selectionDelete : Template :=
  [ .str "Please delete this selected LaTeX code. Just respond with \"I've deleted the ",
    .str "selected content\" to confirm:\n\n```latex\n",
    .slot .selectedText,
    .str "\n```\n\nUser request: ",
    .slot .userMessage ]

def selectionEdit : Template :=
  [ .slot .actionInstruction,
    .str "\n\nSelected LaTeX code:\n```latex\n",
    .slot .selectedText,
    .str "\n```\n\nUser request: ",
    .slot .userMessage,
    .str "\n\nPlease provide clean LaTeX code without \\documentclass, ",
    .str "\\begin\x7bdocument\x7d, or \\end\x7bdocument\x7d. Focus only on the specific ",
    .str "improvement requested." ]

/-- What is wanted of the selection, where the action says so. -/
def selectionInstructions : List (Action × Text) :=
  [ (.replace,
      Text.ofParts
        [ "Replace this selected LaTeX code with the requested content. Provide only the ",
          "replacement code." ]),
    (.add,
      "Add new content to enhance this section. Provide only the new content to add.".toList),
    (.expand,
      "Add new content to enhance this section. Provide only the new content to add.".toList) ]

def selectionDefault : Text :=
  "Improve this selected LaTeX code.".toList

/-! ## With a section -/

def sectionCreate : Template :=
  [ .str "Please create a new ",
    .slot .targetSection,
    .str " section for an academic document.\n\nUser request: ",
    .slot .userMessage,
    .str "\n\nWrite a complete section starting with \\section\x7b",
    .slot .sectionTitle,
    .str "\x7d followed by well-structured content. Make it comprehensive and professional.\n",
    .str "\nRespond naturally as if you're helping a colleague write their paper. Don't ",
    .str "include \\documentclass or document structure - just the section." ]

def sectionDelete : Template :=
  [ .str "The user wants to delete the ",
    .slot .targetSection,
    .str " section. Please respond with \"I've deleted the ",
    .slot .targetSection,
    .str " section\" to confirm deletion.\n\nCurrent ",
    .slot .targetSection,
    .str " section:\n```latex\n",
    .slot .sectionExcerpt,
    .str "...\n```\n\nUser request: ",
    .slot .userMessage ]

def sectionEdit : Template :=
  [ .slot .actionInstruction,
    .str "\n\nCurrent ",
    .slot .targetSection,
    .str " section:\n```latex\n",
    .slot .sectionContent,
    .str "\n```\n\nUser request: ",
    .slot .userMessage,
    .str "\n\n",
    .slot .outputInstruction,
    .str "\n\nRespond in a natural, helpful way as if you're assisting a colleague with their ",
    .str "document." ]

def sectionReplaceInstruction : Template :=
  [ .str "Please rewrite the entire ",
    .slot .targetSection,
    .str " section based on the user's request. Provide the complete section with ",
    .str "\\section\x7b\x7d header." ]

def sectionAddInstruction : Template :=
  [ .str "Please provide additional content to add to the ",
    .slot .insertionPoint,
    .str " of the ",
    .slot .targetSection,
    .str " section. Provide only the new content, not the existing text." ]

def sectionImproveInstruction : Template :=
  [ .str "Please improve the ",
    .slot .targetSection,
    .str " section based on the user's request." ]

def sectionAddOutput : Text :=
  "Provide only the new content to be added - no section header or existing content.".toList

def sectionFullOutput : Text :=
  "Provide the complete improved section with \\section\x7b\x7d header.".toList

/-! ## With neither -/

def wholeDocument : Template :=
  [ .slot .userMessage,
    .str "\n\nCurrent document context:\n```latex\n",
    .slot .documentTail,
    .str "\n```\n\nPlease help improve this LaTeX document. Provide clean LaTeX code that ",
    .str "fits naturally into the existing structure. Respond conversationally and helpfully." ]

/-! ## Rules at the end of every prompt -/

def rulesOpening : List Text :=
  [ "".toList,
    "=== SURGICAL EDITING INSTRUCTIONS ===".toList,
    "CRITICAL: This is surgical editing - make ONLY the requested changes.".toList,
    "Preserve ALL other content exactly as-is.".toList,
    "Maintain proper LaTeX syntax and formatting.".toList,
    Text.ofParts
      [ "Do NOT add \\documentclass, \\begin\x7bdocument\x7d, or \\end\x7bdocument\x7d ",
        "unless specifically requested." ] ]

def rulesClosing : Text :=
  "=== END SURGICAL INSTRUCTIONS ===\n".toList

/-- The rules of each action but the addition. -/
def actionRules : List (Action × List Text) :=
  [ (.delete, ["Return empty string or comment to confirm deletion".toList]),
    (.replace, ["Return ONLY the replacement content".toList]),
    (.expand, ["Return ONLY the new content to be added (no existing content)".toList]),
    (.improve, ["Return the complete improved section with proper LaTeX formatting".toList]),
    (.fix, ["Return the complete improved section with proper LaTeX formatting".toList]) ]

/-- The rules of an addition that names a section. -/
def addSectionRules : List Text :=
  [ "IMPORTANT: Include complete section with \\section\x7bTitle\x7d header".toList,
    "Format: \\section\x7bTitle\x7d\\n\\nContent here...".toList,
    "Do NOT assume section header will be added separately".toList ]

/-- The rules of any other addition. -/
def addContentRules : List Text :=
  [ "Return ONLY the new content to be added".toList ]

end TexSplice.Prompt
