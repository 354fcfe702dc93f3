import TexSplice.Outline.Mark
import TexSplice.Text.Lines

/-! # What a reply holds

Replies come in the tone of a conversation: code may stand in a fence, a heading may be repeated
above the new text, a deletion is confirmed in a sentence. The functions here find the content
in them. -/
namespace TexSplice.Reply
open Text

/-! ## Code -/

def fence : Text := ['`', '`', '`']

def fenceTags : List Text := ["latex".toList, "tex".toList]

/-- The text of a block without the name of the language, the blanks after it and the line
feed. -/
def dropTag (t : Text) : Text :=
  let untagged := (fenceTags.findSome? fun tag => afterIgnoringCase? tag t).getD t
  match untagged.dropWhile fun c => c = ' ' || c = '\t' with
  | '\n' :: rest => rest
  | rest => rest

def fenced? (reply : Text) : Option Text := do
  let (_, rest) ← cut? fence reply
  let (block, _) ← cut? fence (dropTag rest)
  some (trim block)

/-- Whether a backslash stands directly before something that is not blank. -/
def hasCommand : Text → Bool
  | '\\' :: c :: rest => !isBlank c || hasCommand (c :: rest)
  | _ :: rest => hasCommand rest
  | [] => false

/-- Replies from this length on are taken for prose, commands or not. -/
def maxBareLength : Nat := 500

/-- The code in a reply: the first fenced block, or all of a short reply that holds a
command. -/
def code? (reply : Text) : Option Text :=
  match fenced? reply with
  | some block => some block
  | none => if hasCommand reply && reply.length < maxBareLength then some (trim reply) else none

/-- The content of a reply: its code, or all of it if there is none. -/
def content (reply : Text) : Text :=
  match code? reply with
  | some (c :: rest) => c :: rest
  | _ => trim reply

/-! ## Headings -/

def leadingHeading? (t : Text) : Option WrittenHeading := writtenHeading? (trimStart t)

def startsWithHeading (t : Text) : Bool := (leadingHeading? t).isSome

/-- Whether a heading command repeats the heading of a section: the same level or the same
title. Where no section is given any heading counts. -/
def repeats (w : WrittenHeading) : Option Heading → Bool
  | none => true
  | some h => w.level == h.level || titleKey w.title == h.key

/-- The lines of a text without a repeated heading on the first that is not blank. What follows
the heading on its line is kept. -/
def withoutHeading (h : Option Heading) : List Text → Option (List Text)
  | [] => none
  | l :: ls =>
    if allBlank l then withoutHeading h ls
    else
      (leadingHeading? l).bind fun w =>
        if repeats w h then some (if allBlank w.rest then ls else w.rest :: ls) else none

def stripHeading (t : Text) (h : Option Heading) : Text :=
  trim (((withoutHeading h (lines t)).map unlines).getD t)

def namedInGroup (name : Text) : Text → Bool
  | [] => ((afterIgnoringCase? name []).any fun rest => rest.contains '}')
  | c :: rest =>
    ((afterIgnoringCase? name (c :: rest)).any fun rest => rest.contains '}') ||
      (c != '}' && namedInGroup name rest)

def namesTargetHere (name t : Text) : Bool :=
  match (afterIgnoringCase? "\\section".toList t).map fun rest => (star rest).2 with
  | some ('{' :: rest) => namedInGroup name rest
  | _ => false

def namesTarget (t name : Text) : Bool :=
  (findOffset? (fun _ rest => namesTargetHere name rest) none t).isSome

/-- Whether content brings a heading for the target: it names the target in one, or opens with
any. -/
def hasHeadingFor (t name : Text) : Bool := namesTarget t name || startsWithHeading t

def usualTitles : List (Text × Text) :=
  [ ("intro".toList, "Introduction".toList),
    ("introduction".toList, "Introduction".toList),
    ("conclusion".toList, "Conclusion".toList),
    ("conclusions".toList, "Conclusions".toList),
    ("methodology".toList, "Methodology".toList),
    ("methods".toList, "Methods".toList),
    ("results".toList, "Results".toList),
    ("discussion".toList, "Discussion".toList),
    ("literature review".toList, "Literature Review".toList),
    ("related work".toList, "Related Work".toList) ]

def titleFor (name : Text) : Text :=
  let key := titleKey name
  (usualTitles.lookup key).getD (capitalize key)

/-- Content with a heading for the target; one is put in front if there is none. -/
def withHeading (t name : Text) : Text :=
  if hasHeadingFor t name then t
  else "\\section".toList ++ '{' :: titleFor name ++ '}' :: '\n' :: '\n' :: t

/-! ## Deletions -/

/-- Sentences that confirm a deletion. "removed" is not among them: a reply about a removed typo
must not delete a section. -/
def confirmations : List Text :=
  ["i've deleted".toList, "i have deleted".toList, "deleted the".toList]

def confirmsDeletion (reply : Text) : Bool :=
  confirmations.any fun phrase => includes (lower reply) phrase

end TexSplice.Reply
