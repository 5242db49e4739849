import Hexwire.Document.Json
import Hexwire.Document.Yaml.Assembly
import Hexwire.Files.Tree
import Hexwire.Frame

/-! # Reading documents from files

A file of text is read as a document of the stricter format first and, if it is none, as one of the
other. Line ends of all conventions become line feeds before.
-/

namespace Hexwire.Document

/-- Text with every carriage return, and a line feed after it, as one line feed. -/
def plainLines : List Char → List Char
  | [] => []
  | '\r' :: '\n' :: rest => '\n' :: plainLines rest
  | '\r' :: rest => '\n' :: plainLines rest
  | c :: rest => c :: plainLines rest

/-- The value of a text, in the first format that it is a document of. -/
def parse (text : List Char) : Except Fault Value :=
  match Json.parse text with
  | .ok value => .ok value
  | .error (.failed failure) => .error (.failed failure)
  | .error .malformed => Yaml.parse text

end Hexwire.Document

namespace Hexwire

/-- The text of a file, unless the host refuses it or its octets are not text. -/
def FileTree.readText (tree : FileTree) (path : String) : Except Failure (List Char) :=
  match tree.read path with
  | .error fault => .error (fault.failure path)
  | .ok data => match Utf8.decode data with
    | .error fault => .error (fault.failure "utf-8")
    | .ok text => .ok (Document.plainLines text)

end Hexwire
