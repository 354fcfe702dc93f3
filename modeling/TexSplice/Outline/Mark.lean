import TexSplice.Fault
import TexSplice.Text.Word
import TexSplice.Text.Case

/-! # Marks: what a line can be in the structure of a document

There is no grammar of the language here. A line either starts with one of the commands that
give a document its structure, and then carries one mark, or it is content. A group is what
stands between an opening brace and the FIRST closing brace; groups do not nest. -/
namespace TexSplice

/-- The commands that begin a section, from the outermost in. -/
inductive Level where
  | chapter
  | sec
  | subsec
  | subsubsec
  | paragraph
deriving Repr, DecidableEq

namespace Level

def name : Level → Text
  | chapter => "chapter".toList
  | sec => "section".toList
  | subsec => "subsection".toList
  | subsubsec => "subsubsection".toList
  | paragraph => "paragraph".toList

def all : List Level := [chapter, sec, subsec, subsubsec, paragraph]

def ofName (t : Text) : Except Fault Level :=
  match all.find? fun l => l.name == t with
  | some l => .ok l
  | none => .error (.unknownWord .level t)

end Level

/-- A title or a name given by the user in the form in which the two are compared. -/
def titleKey (title : Text) : Text := Text.trim (Text.lower title)

structure Heading where
  level : Level
  title : Text
  /-- The title as it is compared. -/
  key : Text
  starred : Bool
deriving Repr, DecidableEq

inductive Mark where
  | heading (h : Heading)
  | opening (name : Text)
  /-- An environment, other than the document itself, ends. -/
  | closing (name : Text)
  /-- The document's own text ends here: its bibliography or its last line. -/
  | finish (command : Text)
deriving Repr, DecidableEq

/-! ## Recognising commands -/

def documentName : Text := "document".toList

/-- The group that starts a text, and what follows it. -/
def braced? : Text → Option (Text × Text)
  | '{' :: rest => Text.cut? ['}'] rest
  | _ => none

/-- The argument of a command that starts a text, and what follows it. -/
def argument? (command t : Text) : Option (Text × Text) :=
  (Text.after? command t).bind braced?

def star : Text → Bool × Text
  | '*' :: rest => (true, rest)
  | t => (false, t)

structure WrittenHeading where
  level : Level
  starred : Bool
  title : Text
  rest : Text
deriving Repr, DecidableEq

/-- The heading command of one level that starts a text after its backslash. -/
def headingOf? (t : Text) (level : Level) : Option WrittenHeading := do
  let (starred, rest) := star (← Text.after? level.name t)
  let (title, rest) ← braced? rest
  some ⟨level, starred, title, rest⟩

/-- The heading command that starts a text. At most one level fits, since its name is followed
by a star or a brace. -/
def writtenHeading? (t : Text) : Option WrittenHeading :=
  (Text.after? ['\\'] t).bind fun t => Level.all.findSome? (headingOf? t)

/-! ## Rules -/

inductive Rule where
  | heading
  | opening
  | closing
  | finish
deriving Repr, DecidableEq

/-- The beginnings of lines at which the document's own text ends. -/
def finishCommands : List Text :=
  ["\\bibliography".toList, "\\printbibliography".toList, "\\end\x7bdocument\x7d".toList]

namespace Rule

def all : List Rule := [heading, opening, closing, finish]

def mark? : Rule → Text → Option Mark
  | heading, t =>
    (writtenHeading? t).bind fun w =>
      if w.title.isEmpty then none
      else some (.heading ⟨w.level, Text.trim w.title, titleKey w.title, w.starred⟩)
  | opening, t =>
    (argument? "\\begin".toList t).bind fun (name, _) =>
      if name.isEmpty then none else some (.opening name)
  | closing, t =>
    (argument? "\\end".toList t).bind fun (name, _) =>
      if name.isEmpty || Text.trim name == documentName then none else some (.closing name)
  | finish, t => if Text.startsWithAny t finishCommands then some (.finish t) else none

end Rule

/-- The mark of a line: the first that a rule gives to the trimmed line. -/
def classifyBy (rules : List Rule) (line : Text) : Option Mark :=
  let trimmed := Text.trim line
  if trimmed.head? = some '\\' then rules.findSome? fun r => r.mark? trimmed else none

def classify (line : Text) : Option Mark := classifyBy Rule.all line

end TexSplice
