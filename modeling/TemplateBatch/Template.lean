import TemplateBatch.Identifier

/-!
Templates as they are handed over, and the sources that the compiler takes: a text with the path it
is reported under and the types in it that can be rendered.
-/
namespace TemplateBatch

structure Template where
  path : String
  code : String
  className : String
  deriving DecidableEq, Repr

namespace Template

def ofCode (path code : String) : Template := ⟨path, code, Identifier.className path⟩

/-- The file name of the template without its extension; the class name where there is none. -/
def fileStem (t : Template) : String := (Path.mk t.path).stem?.getD t.className

end Template

structure Source where
  path : String
  text : String
  renderables : List String
  deriving DecidableEq, Repr

def Template.source (t : Template) : Source := ⟨t.path, t.code, [t.className]⟩

/-- Whether a file is a template by its name and content. A name that starts with an underscore
marks a part of other templates, and a blank file holds none. -/
def isTemplateCandidate (path : Path) (text extension : String) : Bool :=
  let named :=
    match path.extension? with
    | some e => Text.lowerAscii e == Text.lowerAscii extension
    | none => false
  let hidden :=
    match path.fileName? with
    | some name => name.toList.head? == some '_'
    | none => true
  !Text.isBlankText text && named && !hidden

end TemplateBatch
