import CodeJudge.Template.Cpp
import CodeJudge.Template.Java
import CodeJudge.Template.Javascript
import CodeJudge.Template.Python
/-!
The built-in libraries of templates, one for each target.
-/
namespace CodeJudge.TemplateLibrary

def builtIn : Target → TemplateLibrary
  | .python => Template.Python.library
  | .javascript => Template.Javascript.library
  | .cpp => Template.Cpp.library
  | .java => Template.Java.library

end CodeJudge.TemplateLibrary
