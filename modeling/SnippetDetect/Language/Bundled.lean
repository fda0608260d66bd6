import SnippetDetect.Language.Catalog

/-!
The languages known without any folder, in the order of their names.
-/

namespace SnippetDetect.Language.Bundled

def bash : Language where
  name := "bash"
  keywords := ["if", "then", "else", "fi", "for", "do", "done", "while", "case", "esac",
    "function", "local", "export", "echo", "in"]
  patterns := ["^#!/(usr/)?bin/(env\\s+)?(ba)?sh", "\\$\\\x7b?\\w+\\\x7d?",
    "^\\s*if\\s+\\[\\[?\\s+", "\\bthen\\b|\\bfi\\b", "^\\s*(export\\s+)?\\w+=",
    "\\|\\s*(grep|awk|sed|xargs|sort)\\b", "\\$\\(.+\\)",
    "^\\s*(sudo\\s+)?(apt-get|yum|brew|npm|pip)\\s+install\\b"]
  imports := ["source"]
  builtins := ["echo", "cd", "ls", "grep", "sed", "awk", "cat", "export", "source", "read",
    "printf", "test", "exit", "mkdir", "rm"]
  comments := { line := ["#"] }
  extensions := [".sh", ".bash"]
  operators := ["&&", "||", "|", ">", ">>", "2>&1"]

def cpp : Language where
  name := "cpp"
  keywords := ["include", "namespace", "using", "std", "class", "template", "typename", "public",
    "private", "virtual", "const", "int", "void", "return", "nullptr", "auto"]
  patterns := ["^\\s*#include\\s*[<\"][\\w./]+[>\"]", "\\bstd::\\w+",
    "\\busing\\s+namespace\\s+\\w+\\s*;", "\\btemplate\\s*<", "\\bstd::(cout|cin|cerr)\\s*<<|>>",
    "\\bint\\s+main\\s*\\(", "\\w+::\\w+\\s*\\(", "\\b(public|private|protected)\\s*:"]
  imports := ["include", "using", "namespace"]
  builtins := ["cout", "cin", "endl", "vector", "string", "map", "unique_ptr", "shared_ptr",
    "make_shared", "size_t", "printf", "malloc", "free", "sizeof"]
  comments := { line := ["//"], block := [⟨"/*", "*/"⟩] }
  extensions := [".cpp", ".cc", ".cxx", ".hpp", ".h"]
  operators := ["::", "->", "<<", ">>", "&&", "||"]

def java : Language where
  name := "java"
  keywords := ["public", "private", "protected", "class", "static", "void", "final", "extends",
    "implements", "new", "return", "package", "import", "throws", "interface", "this"]
  patterns := ["\\bpublic\\s+(static\\s+)?(final\\s+)?class\\s+\\w+",
    "\\bpublic\\s+static\\s+void\\s+main\\s*\\(\\s*String", "\\bSystem\\.out\\.print(ln)?\\s*\\(",
    "@Override\\b", "^\\s*package\\s+[\\w.]+\\s*;",
    "^\\s*import\\s+(static\\s+)?[\\w.]+(\\.\\*)?\\s*;",
    "\\b(private|protected|public)\\s+[\\w<>\\[\\]]+\\s+\\w+\\s*[;=(]",
    "\\bnew\\s+[A-Z]\\w*(<[^>]*>)?\\s*\\("]
  imports := ["import", "package"]
  builtins := ["String", "System", "Integer", "List", "ArrayList", "Map", "HashMap", "Object",
    "Exception", "Override", "Math", "Arrays", "Optional", "StringBuilder"]
  comments := { line := ["//"], block := [⟨"/*", "*/"⟩] }
  extensions := [".java"]
  operators := ["==", "!=", "&&", "||", "instanceof"]

def javascript : Language where
  name := "javascript"
  keywords := ["function", "const", "let", "var", "return", "this", "new", "typeof", "undefined",
    "null", "async", "await", "export", "default", "prototype"]
  patterns := ["\\bfunction\\s*\\w*\\s*\\([^)]*\\)\\s*\\\x7b", "\\b(const|let|var)\\s+\\w+\\s*=",
    "\\([^)]*\\)\\s*=>", "\\bconsole\\.(log|error|warn)\\s*\\(", "\\brequire\\s*\\(\\s*['\"]",
    "\\bmodule\\.exports\\b", "===|!==", "\\bdocument\\.\\w+"]
  imports := ["import", "export", "require"]
  builtins := ["console", "document", "window", "JSON", "Math", "Promise", "Array", "Object",
    "String", "Number", "setTimeout", "parseInt", "fetch", "Map", "Set"]
  comments := { line := ["//"], block := [⟨"/*", "*/"⟩] }
  extensions := [".js", ".mjs", ".cjs"]
  operators := ["===", "!==", "=>", "&&", "||", "??"]

def jsx : Language where
  name := "jsx"
  keywords := ["function", "const", "return", "props", "export", "default", "import", "from",
    "className", "useState", "useEffect"]
  patterns := ["<[A-Z]\\w*(\\s+[^>]*)?/?>", "\\bclassName\\s*=", "return\\s*\\(\\s*<",
    "\\\x7b\\s*\\w+(\\.\\w+)*\\s*\\\x7d", "\\buse(State|Effect|Ref|Context|Memo)\\s*\\(",
    "onClick\\s*=\\s*\\\x7b", "</\\w+>", "\\bReact\\.\\w+"]
  imports := ["import", "export", "React"]
  builtins := ["React", "useState", "useEffect", "useRef", "useContext", "Fragment", "console",
    "props", "children"]
  comments := { line := ["//"], block := [⟨"/*", "*/"⟩, ⟨"\x7b/*", "*/\x7d"⟩] }
  extensions := [".jsx"]
  operators := ["=>", "&&", "||", "==="]

def python : Language where
  name := "python"
  keywords := ["def", "class", "import", "from", "return", "elif", "lambda", "yield", "self",
    "None", "True", "False", "async", "await", "with", "pass", "raise", "except", "finally",
    "nonlocal"]
  patterns := ["^\\s*def\\s+\\w+\\s*\\(.*\\)\\s*(->\\s*[\\w\\[\\], .]+)?\\s*:",
    "^\\s*class\\s+\\w+(\\(.*\\))?\\s*:", "^\\s*(from\\s+[\\w.]+\\s+)?import\\s+\\w+",
    "^\\s*(if|elif|while|for)\\s+.*:\\s*$", "^\\s*@\\w+", "\\bself\\.\\w+",
    "if\\s+__name__\\s*==\\s*['\"]__main__['\"]", "\\bprint\\s*\\("]
  imports := ["import", "from", "as"]
  builtins := ["print", "len", "range", "str", "int", "float", "list", "dict", "set", "tuple",
    "open", "isinstance", "enumerate", "zip", "super", "sorted", "type"]
  comments := { line := ["#"], block := [⟨"\"\"\"", "\"\"\""⟩, ⟨"'''", "'''"⟩] }
  extensions := [".py", ".pyw"]
  operators := ["==", "!=", "**", "//", "->", ":="]

def tsx : Language where
  name := "tsx"
  keywords := ["interface", "type", "const", "return", "props", "export", "default", "import",
    "from", "React", "FC"]
  patterns := ["<[A-Z]\\w*(\\s+[^>]*)?/?>", "\\bReact\\.FC\\b|:\\s*FC<",
    "\\binterface\\s+\\w+Props\\s*\\\x7b", "return\\s*\\(\\s*<", "\\buse(State|Effect|Ref)\\s*<",
    "\\w+\\s*:\\s*(string|number|boolean)\\s*;", "</\\w+>", "\\bclassName\\s*="]
  imports := ["import", "export", "React"]
  builtins := ["React", "FC", "useState", "useEffect", "useRef", "ReactNode", "JSX", "string",
    "number", "boolean"]
  comments := { line := ["//"], block := [⟨"/*", "*/"⟩, ⟨"\x7b/*", "*/\x7d"⟩] }
  extensions := [".tsx"]
  operators := ["=>", "?.", "??", "==="]

def typescript : Language where
  name := "typescript"
  keywords := ["interface", "type", "enum", "implements", "readonly", "private", "public",
    "protected", "abstract", "namespace", "declare", "keyof", "const", "let", "function"]
  patterns := ["\\binterface\\s+\\w+\\s*(extends\\s+[\\w, ]+)?\\s*\\\x7b",
    "\\btype\\s+\\w+\\s*(<[^>]*>)?\\s*=",
    "\\w+\\s*:\\s*(string|number|boolean|any|void|unknown|never)\\b",
    "\\b(private|public|protected|readonly)\\s+\\w+", "\\benum\\s+\\w+\\s*\\\x7b",
    "<\\w+(\\[\\])?>\\s*\\(", "\\bas\\s+(string|number|any|const)\\b",
    "\\)\\s*:\\s*(Promise<|void|string|number|boolean)"]
  imports := ["import", "export", "from"]
  builtins := ["string", "number", "boolean", "any", "void", "unknown", "never", "Promise",
    "Array", "Record", "Partial", "Readonly", "console", "Map", "Set"]
  comments := { line := ["//"], block := [⟨"/*", "*/"⟩] }
  extensions := [".ts"]
  operators := ["===", "!==", "=>", "?.", "??", "!"]

def vue : Language where
  name := "vue"
  keywords := ["template", "script", "style", "export", "default", "data", "methods", "computed",
    "props", "setup", "ref", "reactive"]
  patterns := ["<template>", "</template>", "<script(\\s+setup)?(\\s+lang=\"\\w+\")?>",
    "<style(\\s+scoped)?>", "\\bv-(if|for|model|bind|on|show)\\b", "@click\\s*=",
    "\\\x7b\\\x7b\\s*[^\x7d]+\\s*\\\x7d\\\x7d", "export\\s+default\\s*\\\x7b"]
  imports := ["import", "export", "defineComponent", "defineProps"]
  builtins := ["ref", "reactive", "computed", "watch", "onMounted", "defineProps", "defineEmits",
    "nextTick", "emit"]
  comments := { line := ["//"], block := [⟨"<!--", "-->"⟩, ⟨"/*", "*/"⟩] }
  extensions := [".vue"]
  operators := ["=>", "==="]

/-- All of them. -/
def languages : List Language := [bash, cpp, java, javascript, jsx, python, tsx, typescript, vue]

def catalog : Catalog := Catalog.addAll [] languages

end SnippetDetect.Language.Bundled
