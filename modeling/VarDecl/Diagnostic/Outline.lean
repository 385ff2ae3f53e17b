/-
Outlines of diagnostics: the cause with its subject by name, and the position.
-/
import VarDecl.Diagnostic.Basic
import VarDecl.Tree.Outline

namespace VarDecl

def Cause.outline (l : Layout) (c : Cause) : Text := l.record c.name [(c.subjectName, Text.Quoted.encode c.subject)]

def Diagnostic.outline (l : Layout) (d : Diagnostic) : Text :=
  l.record "Error" [("internal_error", d.cause.outline l.inner), ("position", d.position.outline l.inner)]

end VarDecl
