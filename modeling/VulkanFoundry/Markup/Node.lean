/-
# The element tree of a document

The tree is built from the lexemes with the stack of elements that are still
open. It ends where the first element of the document is closed; of what follows
only a tag right behind it is noted. Character data and references between two
tags form one run of text, also across comments; a document type declaration
ends a run.

The references of a run are replaced when the run is read, so that a part of
the document that is skipped as a whole may refer to anything.
-/
import VulkanFoundry.Markup.Attributes

namespace VulkanFoundry
namespace Markup

/-- A piece of a run of text. -/
inductive RunPiece where
  | plain (cs : List Char)
  | reference (name : List Char)
  deriving DecidableEq

/-- What an element holds: runs of text, document type declarations, and
elements. -/
inductive Node where
  | text (run : List RunPiece)
  | doctype
  | element (tag : Tag) (children : List Node)

/-- The tag that the nodes start with, if they start with an element. -/
def firstTag : List Node → Option Tag
  | .element tag _ :: _ => some tag
  | _ => none

/-- The first element of a document with what it holds, and the start tag right
behind it. -/
structure Root where
  tag : Tag
  children : List Node
  next : Option Tag

/-- An element that is not closed yet: its finished children and the run of text
behind them, both in reverse. -/
structure Frame where
  tag : Tag
  children : List Node
  run : List RunPiece

def Frame.endRun (frame : Frame) : Frame :=
  match frame.run with
  | [] => frame
  | pieces => ⟨frame.tag, .text pieces.reverse :: frame.children, []⟩

def Frame.addPiece (frame : Frame) (piece : RunPiece) : Frame :=
  { frame with run := piece :: frame.run }

def Frame.addChild (frame : Frame) (child : Node) : Frame :=
  let ended := frame.endRun
  { ended with children := child :: ended.children }

/-- The children of a frame that is closed, in order. -/
def Frame.content (frame : Frame) : List Node := frame.endRun.children.reverse

/-- The text of a run with its references replaced. -/
def textOf? : List RunPiece → Option (List Char)
  | [] => some []
  | .plain cs :: rest => (textOf? rest).map (cs ++ ·)
  | .reference name :: rest =>
    match resolveReference? name, textOf? rest with
    | some c, some cs => some (c :: cs)
    | _, _ => none

def isBlankText (cs : List Char) : Bool := cs.all isSpace

/-- The start tag that the lexemes begin with, but for what is passed over. -/
def nextTag : List Lexeme → Option Tag
  | .passedOver :: rest => nextTag rest
  | .opening tag :: _ => some tag
  | .selfClosing tag :: _ => some tag
  | _ => none

/-- The tree of the lexemes, where the frames are the elements still open, the
innermost first. -/
def build? : List Frame → List Lexeme → Option Root
  | _, [] => none
  | frames, .passedOver :: rest => build? frames rest
  | _, .broken :: _ => none
  | [], .doctype :: rest => build? [] rest
  | [], .text cs :: rest => if isBlankText cs then build? [] rest else none
  | [], .reference name :: rest =>
    match resolveReference? name with
    | some c => if isSpace c then build? [] rest else none
    | none => none
  | [], .opening tag :: rest => build? [⟨tag, [], []⟩] rest
  | [], .selfClosing tag :: rest => some ⟨tag, [], nextTag rest⟩
  | [], .closing _ :: _ => none
  | frame :: frames, .doctype :: rest => build? (frame.addChild .doctype :: frames) rest
  | frame :: frames, .text cs :: rest => build? (frame.addPiece (.plain cs) :: frames) rest
  | frame :: frames, .reference name :: rest =>
    build? (frame.addPiece (.reference name) :: frames) rest
  | frame :: frames, .opening tag :: rest => build? (⟨tag, [], []⟩ :: frame :: frames) rest
  | frame :: frames, .selfClosing tag :: rest =>
    build? (frame.addChild (.element tag []) :: frames) rest
  | [frame], .closing name :: rest =>
    if name = frame.tag.name then some ⟨frame.tag, frame.content, nextTag rest⟩ else none
  | frame :: parent :: frames, .closing name :: rest =>
    if name = frame.tag.name then
      build? (parent.addChild (.element frame.tag frame.content) :: frames) rest
    else none

def Root.read? (text : String) : Option Root :=
  build? [] (lexemes (withoutByteOrderMark text.toList))

end Markup
end VulkanFoundry
